import Mathlib.Data.Finset.Image
import KeyLayers.Host.Rule

/-!
# The machine that runs rules

What the host does with a list of rules, as far as the meaning of the rules
depends on it.  Its state holds the values of the variables, all of them 0 at the
start, and the manipulators whose keys are down.  A manipulator can be pressed
when it is not held and its conditions hold, and released when it is held; either
way the assignments among its events are carried out in order.

Which manipulator a key goes to is a matter of its own: of all that match the key
and the modifiers that are down, the first one is chosen.

A manipulator is named by its *slot*, the number of its rule and its number
within the rule, since two manipulators at different slots may be equal.

## Main definitions

* `Slot`, `manipulatorAt?` — places among rules.
* `State`, `State.step?`, `State.run?` — the machine, one input and many.
* `Stroke`, `Chosen` — a key with modifiers, and where it goes to.

## Main results

* `State.run?_invariant` — what every step keeps, every run keeps.
* `Chosen.unique` — a stroke goes to one slot only.
-/

namespace KeyLayers.Host

/-! ### Slots -/

/-- A place among rules. -/
structure Slot where
  /-- The number of the rule. -/
  rule : ℕ
  /-- The number of the manipulator in its rule. -/
  manipulator : ℕ
  deriving DecidableEq, Repr

/-- The order in which the host tries manipulators. -/
def Slot.Before (a b : Slot) : Prop :=
  a.rule < b.rule ∨ a.rule = b.rule ∧ a.manipulator < b.manipulator

theorem Slot.before_trichotomy (a b : Slot) : a.Before b ∨ a = b ∨ b.Before a := by
  obtain ⟨i, m⟩ := a
  obtain ⟨j, n⟩ := b
  simp only [Before, mk.injEq]
  omega

/-- The manipulator at a slot. -/
def manipulatorAt? (rules : List Rule) (slot : Slot) : Option Manipulator :=
  rules[slot.rule]?.bind fun r => r.manipulators[slot.manipulator]?

/-! ### Variables -/

/-- The values of the variables. -/
abbrev Store := String → Scalar

/-- The store after an event. -/
def Store.after (store : Store) (event : Event) : Store :=
  match event.assignment with
  | some a => Function.update store a.name a.value
  | none => store

/-- The store after the events of a manipulator, in order. -/
def Store.afterAll (store : Store) (events : Option (List Event)) : Store :=
  (events.getD []).foldl Store.after store

@[simp] theorem Store.afterAll_none (store : Store) : store.afterAll none = store := rfl

/-- A variable that no event sets keeps its value. -/
theorem Store.afterAll_of_unset {events : List Event} {name : String}
    (h : ∀ event ∈ events, ∀ a, event.assignment = some a → a.name ≠ name) (store : Store) :
    store.afterAll (some events) name = store name := by
  change events.foldl Store.after store name = store name
  induction events generalizing store with
  | nil => rfl
  | cons event events ih =>
    rw [List.foldl_cons, ih fun e he => h e (List.mem_cons_of_mem _ he)]
    unfold Store.after
    cases ha : event.assignment with
    | none => rfl
    | some a => exact Function.update_of_ne (h event List.mem_cons_self a ha).symm _ _

/-- A condition holds in a store. -/
def Condition.Holds (store : Store) (c : Condition) : Prop := store c.name = c.value

instance (store : Store) (c : Condition) : Decidable (c.Holds store) :=
  inferInstanceAs (Decidable (_ = _))

/-- All conditions of a manipulator hold in a store. -/
def Manipulator.Enabled (store : Store) (m : Manipulator) : Prop :=
  ∀ c ∈ m.conditions, c.Holds store

instance (store : Store) (m : Manipulator) : Decidable (m.Enabled store) :=
  inferInstanceAs (Decidable (∀ c ∈ m.conditions, c.Holds store))

/-! ### Steps and runs -/

/-- A state of the machine. -/
structure State where
  /-- The values of the variables. -/
  store : Store
  /-- Whether the manipulator at a slot is held. -/
  held : Slot → Bool

/-- Nothing is held, and all variables are 0. -/
def State.initial : State := ⟨fun _ => .int 0, fun _ => false⟩

/-- What can happen to a manipulator. -/
inductive Input
  /-- Its key goes down. -/
  | press (slot : Slot)
  /-- Its key comes up. -/
  | release (slot : Slot)
  deriving DecidableEq, Repr

namespace State

variable {rules : List Rule} {s s' : State} {slot : Slot}

/-- The state after an input, if the input is possible. -/
def step? (rules : List Rule) (s : State) : Input → Option State
  | .press slot =>
    (manipulatorAt? rules slot).bind fun m =>
      if s.held slot = false ∧ m.Enabled s.store then
        some ⟨s.store.afterAll m.onPress, Function.update s.held slot true⟩
      else none
  | .release slot =>
    (manipulatorAt? rules slot).bind fun m =>
      if s.held slot = true then
        some ⟨s.store.afterAll m.onRelease, Function.update s.held slot false⟩
      else none

/-- The state after inputs in order, if each of them is possible. -/
def run? (rules : List Rule) (s : State) : List Input → Option State
  | [] => some s
  | input :: inputs => (s.step? rules input).bind fun s' => s'.run? rules inputs

/-- What it takes to press a manipulator, and what it does. -/
theorem step?_press_eq_some_iff : s.step? rules (.press slot) = some s' ↔
    ∃ m, manipulatorAt? rules slot = some m ∧ s.held slot = false ∧ m.Enabled s.store ∧
      s' = ⟨s.store.afterAll m.onPress, Function.update s.held slot true⟩ := by
  simp only [step?, Option.bind_eq_some_iff]
  refine exists_congr fun m => and_congr_right fun _ => ?_
  split
  · next h => simp [h, eq_comm]
  · next h => exact ⟨nofun, fun ⟨hheld, henabled, _⟩ => absurd ⟨hheld, henabled⟩ h⟩

/-- What it takes to release a manipulator, and what it does. -/
theorem step?_release_eq_some_iff : s.step? rules (.release slot) = some s' ↔
    ∃ m, manipulatorAt? rules slot = some m ∧ s.held slot = true ∧
      s' = ⟨s.store.afterAll m.onRelease, Function.update s.held slot false⟩ := by
  simp only [step?, Option.bind_eq_some_iff]
  refine exists_congr fun m => and_congr_right fun _ => ?_
  split
  · next h => simp [h, eq_comm]
  · next h => exact ⟨nofun, fun ⟨hheld, _⟩ => absurd hheld h⟩

/-- **What every step keeps, every run keeps.** -/
theorem run?_invariant {P : State → Prop}
    (hstep : ∀ s s' input, P s → s.step? rules input = some s' → P s')
    {inputs : List Input} (hs : P s) (h : s.run? rules inputs = some s') : P s' := by
  induction inputs generalizing s with
  | nil =>
    obtain rfl : s = s' := Option.some.inj h
    exact hs
  | cons input inputs ih =>
    obtain ⟨mid, hmid, hrest⟩ := Option.bind_eq_some_iff.mp h
    exact ih (hstep s mid input hs hmid) hrest

end State

/-! ### Where a key goes to -/

/-- A key that goes down while modifiers are held. -/
structure Stroke where
  /-- The key. -/
  keyCode : String
  /-- The modifiers. -/
  held : Finset KeyLayers.Modifier
  deriving DecidableEq

/-- The modifiers that a trigger asks for. -/
def Trigger.mandatory (trigger : Trigger) : List Modifier :=
  (trigger.modifiers.bind TriggerModifiers.mandatory).getD []

/-- A trigger waits for a stroke: for its key, and for any modifiers or exactly those that are
held. -/
def Trigger.Accepts (trigger : Trigger) (stroke : Stroke) : Prop :=
  trigger.keyCode = stroke.keyCode ∧
    (trigger.mandatory = [.any] ∨ trigger.mandatory.toFinset = stroke.held.image .key)

/-- A manipulator matches a stroke: its trigger waits for it and its conditions hold. -/
def Manipulator.Matches (store : Store) (stroke : Stroke) (m : Manipulator) : Prop :=
  m.trigger.Accepts stroke ∧ m.Enabled store

/-- `Chosen rules store stroke slot` says that the manipulator at `slot` is the first one that
matches the stroke. -/
structure Chosen (rules : List Rule) (store : Store) (stroke : Stroke) (slot : Slot) : Prop where
  /-- The manipulator at the slot matches. -/
  matching : ∃ m, manipulatorAt? rules slot = some m ∧ m.Matches store stroke
  /-- None before it does. -/
  first : ∀ earlier m, earlier.Before slot → manipulatorAt? rules earlier = some m →
    ¬ m.Matches store stroke

/-- **A stroke goes to one slot only.** -/
theorem Chosen.unique {rules : List Rule} {store : Store} {stroke : Stroke} {a b : Slot}
    (ha : Chosen rules store stroke a) (hb : Chosen rules store stroke b) : a = b := by
  obtain ⟨m, hm, hmatch⟩ := ha.matching
  obtain ⟨n, hn, hnatch⟩ := hb.matching
  rcases a.before_trichotomy b with h | h | h
  · exact absurd hmatch (hb.first a m h hm)
  · exact h
  · exact absurd hnatch (ha.first b n h hn)

end KeyLayers.Host
