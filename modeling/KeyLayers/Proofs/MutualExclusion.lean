import KeyLayers.Proofs.Config.Actions
import KeyLayers.Proofs.Rules

/-!
# At most one sublayer is open

Whatever keys go down and come up, and in whatever order, the variable of a
sublayer is 1 exactly while its toggle is held, and no two toggles are held at
once.  So at most one sublayer is open, and when all keys are up, none is.

The invariant says just this of a state.  Only toggles write the variables of
sublayers: a command that set one would break it, so commands have to spare
them, as all commands that are read from a configuration do.

## Main definitions

* `Layers.ToggleAt` — where the toggles stand.
* `Layers.SparesVariables` — no command sets the variable of a sublayer.
* `Target.Exclusive` — the invariant.

## Main results

* `Layers.sparesVariables_of_toLayers` — layers that are read spare the variables.
* `Target.exclusive_step` — every step keeps the invariant.
* `Target.run_mutualExclusion` — **at most one sublayer is open.**
-/

namespace KeyLayers

open Host

/-! ### Toggles and commands -/

namespace Layers

/-- No command sets the variable of a sublayer. -/
def SparesVariables (l : Layers) : Prop :=
  ∀ command ∈ l.commandList, ∀ name value, Action.setVariable name value ∈ command.actions →
    ∀ key ∈ l.sublayerKeys, name ≠ sublayerVariable key

/-- `l.ToggleAt slot key` says that the toggle of the sublayer of `key` stands at `slot`. -/
inductive ToggleAt (l : Layers) : Slot → KeyCode → Prop
  /-- The toggle is the first manipulator of the rule of its entry. -/
  | intro {i : ℕ} {key : KeyCode} {commands : OrderedMap Command}
      (entry : l.entries.entries[i]? = some (key, .sublayer commands)) : ToggleAt l ⟨i, 0⟩ key

variable {l : Layers} {slot a b : Slot} {j k key : KeyCode}

theorem ToggleAt.mem_sublayerKeys (h : l.ToggleAt slot key) : key ∈ l.sublayerKeys := by
  cases h with
  | intro hentry => exact mem_sublayerKeys_of_getElem? hentry

theorem exists_toggleAt (h : key ∈ l.sublayerKeys) : ∃ slot, l.ToggleAt slot key := by
  obtain ⟨commands, hmem⟩ := Layers.mem_sublayerKeys.mp h
  obtain ⟨i, hi⟩ := List.mem_iff_getElem?.mp hmem
  exact ⟨⟨i, 0⟩, .intro hi⟩

/-- One slot has the toggle of one sublayer. -/
theorem ToggleAt.key_unique (h : l.ToggleAt slot j) (h' : l.ToggleAt slot k) : j = k := by
  cases h with
  | intro hentry =>
    cases h' with
    | intro hentry' =>
      rw [hentry] at hentry'
      exact congrArg Prod.fst (Option.some.inj hentry')

/-- A sublayer has its toggle at one slot. -/
theorem ToggleAt.slot_unique (h : l.ToggleAt a key) (h' : l.ToggleAt b key) : a = b := by
  cases h with
  | intro hentry =>
    cases h' with
    | intro hentry' => rw [Entries.index_unique l.entries.nodup hentry hentry']

end Layers

/-! ### Layers that are read -/

/-- Layers that are read set no variables at all. -/
theorem Layers.setVariable_notMem_of_toLayers {c : Config} {l : Layers} (h : c.toLayers = .ok l)
    {command : Command} (hcommand : command ∈ l.commandList) (name : String) (value : Scalar) :
    Action.setVariable name value ∉ command.actions :=
  fun hmem => isPlain_of_toLayers h hcommand _ hmem

/-! ### Steps -/

namespace Target

variable {t : Target} {l : Layers} {slot : Slot} {m : Manipulator} {s s' : State}

/-- At a slot stands a toggle, or a manipulator that only fires a command. -/
theorem Places.toggle_or_command (h : t.Places l slot m) :
    (∃ key, l.ToggleAt slot key ∧ m = t.toggle (.ofLayers l) key) ∨
      (∀ key, ¬ l.ToggleAt slot key) ∧ m.onRelease = none ∧
        ∃ command ∈ l.commandList, m.onPress = some (command.actions.map t.event) := by
  cases h with
  | @leaf i key command hentry =>
    right
    refine ⟨?_, rfl, command, ?_, rfl⟩
    · intro k hk
      cases hk with
      | intro hentry' =>
        rw [hentry] at hentry'
        cases hentry'
    · exact Layers.mem_commandList (List.mem_of_getElem? hentry) (List.mem_singleton_self _)
  | toggle hentry =>
    left
    exact ⟨_, .intro hentry, rfl⟩
  | @dispatch i n key commandKey commands command hentry hbinding =>
    right
    refine ⟨nofun, rfl, command, ?_, rfl⟩
    have hcommand : command ∈ commands.entries.map Prod.snd :=
      List.mem_map_of_mem (List.mem_of_getElem? hbinding)
    exact Layers.mem_commandList (List.mem_of_getElem? hentry) hcommand

/-- The events of a command leave the variables of sublayers as they are. -/
theorem afterAll_command (hspares : l.SparesVariables) {command : Command}
    (hcommand : command ∈ l.commandList) {key : KeyCode} (hkey : key ∈ l.sublayerKeys)
    (store : Store) : store.afterAll (some (command.actions.map t.event)) (sublayerVariable key) =
      store (sublayerVariable key) := by
  refine Store.afterAll_of_unset ?_ store
  intro event hevent a ha
  obtain ⟨action, haction, rfl⟩ := List.mem_map.mp hevent
  cases action with
  | keyPress press => cases ha
  | consumerKey code => cases ha
  | vendorKey code => cases ha
  | shell command => cases ha
  | setVariable name value =>
    cases ha
    exact hspares command hcommand name value haction key hkey

/-- `Exclusive l s` says that in `s` the variable of each sublayer of `l` tells whether its toggle
is held, and at most one toggle is. -/
structure Exclusive (l : Layers) (s : State) : Prop where
  /-- The variable is 1 if the toggle is held, and 0 if it is not. -/
  value : ∀ slot key, l.ToggleAt slot key →
    s.store (sublayerVariable key) = .int (if s.held slot then 1 else 0)
  /-- At most one toggle is held. -/
  single : ∀ a b j k, l.ToggleAt a j → l.ToggleAt b k → s.held a = true → s.held b = true → a = b

theorem exclusive_initial (l : Layers) : Exclusive l .initial where
  value := fun _ _ _ => rfl
  single := fun _ _ _ _ _ _ ha => absurd ha Bool.false_ne_true

/-- The invariant depends only on the variables of sublayers and on the toggles. -/
theorem Exclusive.frame (h : Exclusive l s)
    (hstore : ∀ key ∈ l.sublayerKeys,
      s'.store (sublayerVariable key) = s.store (sublayerVariable key))
    (hheld : ∀ slot key, l.ToggleAt slot key → s'.held slot = s.held slot) : Exclusive l s' where
  value := by
    intro slot key hslot
    rw [hstore key hslot.mem_sublayerKeys, hheld slot key hslot]
    exact h.value slot key hslot
  single := by
    intro a b j k ha hb hheldA hheldB
    rw [hheld a j ha] at hheldA
    rw [hheld b k hb] at hheldB
    exact h.single a b j k ha hb hheldA hheldB

/-- The toggles that are held are those whose variables are not 0. -/
theorem Exclusive.held_iff {key : KeyCode} (h : Exclusive l s) (hslot : l.ToggleAt slot key) :
    s.held slot = true ↔ s.store (sublayerVariable key) ≠ .int 0 := by
  rw [h.value slot key hslot]
  cases s.held slot with
  | false => simp
  | true => simp

/-- A toggle that goes down or comes up leaves one variable set, or none. -/
theorem Exclusive.toggle {key : KeyCode} (h : Exclusive l s) (hslot : l.ToggleAt slot key)
    (hother : ∀ other j, l.ToggleAt other j → other ≠ slot → s.held other = false) (down : Bool) :
    Exclusive l ⟨Function.update s.store (sublayerVariable key) (.int (if down then 1 else 0)),
      Function.update s.held slot down⟩ where
  value := by
    intro other j hj
    show Function.update s.store (sublayerVariable key) _ (sublayerVariable j) =
      .int (if Function.update s.held slot down other then 1 else 0)
    by_cases hsame : other = slot
    · subst hsame
      obtain rfl := hj.key_unique hslot
      rw [Function.update_self, Function.update_self]
    · -- another toggle has another key, and so another variable
      have hne : j ≠ key := by
        rintro rfl
        exact hsame (hj.slot_unique hslot)
      have hname : sublayerVariable j ≠ sublayerVariable key :=
        fun e => hne (sublayerVariable_injective e)
      rw [Function.update_of_ne hname, Function.update_of_ne hsame]
      exact h.value other j hj
  single := by
    intro a b j k ha hb hheldA hheldB
    -- both of them are the toggle that moved, since no other one is held
    have hmoved : ∀ c i, l.ToggleAt c i → Function.update s.held slot down c = true →
        c = slot := by
      intro c i hc hheld
      by_contra hne
      rw [Function.update_of_ne hne, hother c i hc hne] at hheld
      cases hheld
    exact (hmoved a j ha hheldA).trans (hmoved b k hb hheldB).symm

theorem exclusive_press (hspares : l.SparesVariables) (h : Exclusive l s)
    (hstep : s.step? (t.rules l) (.press slot) = some s') : Exclusive l s' := by
  obtain ⟨m, hm, -, henabled, rfl⟩ := State.step?_press_eq_some_iff.mp hstep
  rcases (manipulatorAt?_rules_iff.mp hm).toggle_or_command with ⟨key, hslot, rfl⟩ | hcommand
  · -- the conditions of the toggle say that no other one is held
    have hzero := enabled_toggle_iff.mp henabled
    refine h.toggle hslot ?_ true
    intro other j hj hne
    have hkey : j ≠ key := by
      rintro rfl
      exact hne (hj.slot_unique hslot)
    rw [Bool.eq_false_iff, ne_eq, h.held_iff hj, not_not]
    exact hzero j hj.mem_sublayerKeys hkey
  · obtain ⟨hnone, -, command, hmem, hpress⟩ := hcommand
    refine h.frame ?_ ?_
    · -- commands write no variable of a sublayer
      intro key hkey
      rw [hpress]
      exact afterAll_command hspares hmem hkey s.store
    · intro other key hother
      refine Function.update_of_ne ?_ _ _
      rintro rfl
      exact hnone key hother

theorem exclusive_release (h : Exclusive l s)
    (hstep : s.step? (t.rules l) (.release slot) = some s') : Exclusive l s' := by
  obtain ⟨m, hm, hheld, rfl⟩ := State.step?_release_eq_some_iff.mp hstep
  rcases (manipulatorAt?_rules_iff.mp hm).toggle_or_command with ⟨key, hslot, rfl⟩ | hcommand
  · -- this toggle was held, so no other one is
    refine h.toggle hslot ?_ false
    intro other j hj hne
    by_contra hother
    rw [Bool.not_eq_false] at hother
    exact hne (h.single other slot j key hj hslot hother hheld)
  · obtain ⟨hnone, hrelease, -⟩ := hcommand
    refine h.frame ?_ ?_
    · intro key _
      rw [hrelease, Store.afterAll_none]
    · intro other key hother
      refine Function.update_of_ne ?_ _ _
      rintro rfl
      exact hnone key hother

/-- Every step keeps the invariant. -/
theorem exclusive_step (hspares : l.SparesVariables) (input : Input) (h : Exclusive l s)
    (hstep : s.step? (t.rules l) input = some s') : Exclusive l s' := by
  cases input with
  | press slot => exact exclusive_press hspares h hstep
  | release slot => exact exclusive_release h hstep

/-! ### Runs -/

/-- Every run that starts with nothing held keeps the invariant. -/
theorem exclusive_run (hspares : l.SparesVariables) {inputs : List Input}
    (hrun : State.run? (t.rules l) .initial inputs = some s) : Exclusive l s :=
  State.run?_invariant (fun _ _ input h hstep => exclusive_step hspares input h hstep)
    (exclusive_initial l) hrun

/-- At most one variable of a sublayer is not 0. -/
theorem Exclusive.key_unique {j k : KeyCode} (h : Exclusive l s) (hj : j ∈ l.sublayerKeys)
    (hk : k ∈ l.sublayerKeys) (hnej : s.store (sublayerVariable j) ≠ .int 0)
    (hnek : s.store (sublayerVariable k) ≠ .int 0) : j = k := by
  obtain ⟨a, ha⟩ := Layers.exists_toggleAt hj
  obtain ⟨b, hb⟩ := Layers.exists_toggleAt hk
  obtain rfl := h.single a b j k ha hb ((h.held_iff ha).mpr hnej) ((h.held_iff hb).mpr hnek)
  exact ha.key_unique hb

/-- **At most one sublayer is open.**  Layers that are read set no variables; and when no command
sets the variable of a sublayer, then after any run each of these variables is 1 if its toggle is
held and 0 if it is not, at most one of them is not 0, and without a held toggle all of them are. -/
theorem run_mutualExclusion (t : Target) :
    (∀ (c : Config) (l : Layers), c.toLayers = .ok l → ∀ command ∈ l.commandList,
      ∀ name value, Action.setVariable name value ∉ command.actions) ∧
    ∀ l : Layers, l.SparesVariables → ∀ inputs s,
      State.run? (t.rules l) .initial inputs = some s →
      (∀ key ∈ l.sublayerKeys, ∃ slot, l.ToggleAt slot key ∧
        manipulatorAt? (t.rules l) slot = some (t.toggle (.ofLayers l) key) ∧
        s.store (sublayerVariable key) = .int (if s.held slot then 1 else 0)) ∧
      (∀ j ∈ l.sublayerKeys, ∀ k ∈ l.sublayerKeys, s.store (sublayerVariable j) ≠ .int 0 →
        s.store (sublayerVariable k) ≠ .int 0 → j = k) ∧
      ((∀ slot key, l.ToggleAt slot key → s.held slot = false) →
        ∀ key ∈ l.sublayerKeys, s.store (sublayerVariable key) = .int 0) := by
  constructor
  · intro c l hl command hcommand name value
    exact Layers.setVariable_notMem_of_toLayers hl hcommand name value
  · intro l hspares inputs s hrun
    have hexclusive := exclusive_run hspares hrun
    refine ⟨?_, ?_, ?_⟩
    · intro key hkey
      obtain ⟨slot, hslot⟩ := Layers.exists_toggleAt hkey
      refine ⟨slot, hslot, ?_, hexclusive.value slot key hslot⟩
      cases hslot with
      | intro hentry => exact manipulatorAt?_rules_iff.mpr (.toggle hentry)
    · intro j hj k hk hnej hnek
      exact hexclusive.key_unique hj hk hnej hnek
    · intro hreleased key hkey
      obtain ⟨slot, hslot⟩ := Layers.exists_toggleAt hkey
      rw [hexclusive.value slot key hslot, hreleased slot key hslot]
      rfl

/-- A run in which one sublayer is opened, used and left, and then the other one is opened. -/
theorem run_mutualExclusion_filesAndMusic :
    Layers.filesAndMusic.SparesVariables ∧
      ∃ s, State.run? (Target.rules {} Layers.filesAndMusic) .initial
          [.press ⟨0, 0⟩, .press ⟨0, 1⟩, .press ⟨1, 0⟩, .release ⟨0, 0⟩, .press ⟨2, 0⟩] = some s ∧
        ∀ key ∈ Layers.filesAndMusic.sublayerKeys, ∃ slot,
          Layers.filesAndMusic.ToggleAt slot key ∧
          manipulatorAt? (Target.rules {} Layers.filesAndMusic) slot =
            some (Target.toggle {} (.ofLayers Layers.filesAndMusic) key) ∧
          s.store (sublayerVariable key) = .int (if s.held slot then 1 else 0) := by
  have hspares : Layers.filesAndMusic.SparesVariables := by
    intro command hcommand name value hmem
    simp [Layers.filesAndMusic, Layers.commandList, Entry.commandList] at hcommand
    rcases hcommand with rfl | rfl | rfl <;> simp at hmem
  refine ⟨hspares, ?_⟩
  obtain ⟨s, hs⟩ := Option.isSome_iff_exists.mp
    (by decide : (State.run? (Target.rules {} Layers.filesAndMusic) .initial
      [.press ⟨0, 0⟩, .press ⟨0, 1⟩, .press ⟨1, 0⟩, .release ⟨0, 0⟩, .press ⟨2, 0⟩]).isSome = true)
  exact ⟨s, hs, ((run_mutualExclusion {}).2 _ hspares _ s hs).1⟩

end Target

end KeyLayers
