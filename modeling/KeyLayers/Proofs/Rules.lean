import Mathlib.Data.List.Forall2
import KeyLayers.Proofs.Host.Machine
import KeyLayers.Proofs.Registry
import KeyLayers.Target

/-!
# The exclusion matrix of compiled rules

Two sublayers must never be open together, and the rules see to it by the
conditions of the toggles: read as a matrix whose rows are the toggles and whose
columns are the variables of the sublayers, the conditions fill every cell off
the diagonal, each exactly once, and nothing else.  The dispatches of a sublayer
have its own variable as their single condition, and commands of root keys have
none at all.

At the slots of compiled rules stand three kinds of manipulators, one constructor
of `Target.Places` each; every argument about where something stands is a case
analysis on it.

## Main definitions

* `Target.Places` — what stands at each slot of compiled rules.
* `Host.Manipulator.conditionsOn` — the conditions on one variable.
* `Target.IsToggle`, `Target.IsDispatch`, `Target.RuleShape` — what the
  manipulators of a rule look like.

## Main results

* `Target.manipulatorAt?_rules_iff` — the slots of compiled rules.
* `Target.rules_exclusion_matrix` — the matrix.
-/

namespace KeyLayers

open Host

/-- The conditions of a manipulator that test the variable `name`. -/
def Host.Manipulator.conditionsOn (m : Manipulator) (name : String) : List Condition :=
  m.conditions.filter fun c => c.name = name

/-- Two sublayers and a command between them. -/
def Layers.filesAndMusic : Layers where
  entries := ⟨
    [("o", .sublayer ⟨[("f", ⟨[.shell "open -a Finder"], some "Finder"⟩)], by decide⟩),
     ("f6", .leaf ⟨[.keyPress ⟨"f6", [], false⟩], none⟩),
     ("m", .sublayer ⟨[("f6", ⟨[.consumerKey "play_or_pause"], none⟩)], by decide⟩)],
    by decide⟩

namespace Target

variable {t : Target} {l : Layers}

/-! ### The slots of compiled rules -/

/-- `t.Places l slot m` says that the rules of `l` have `m` at `slot`. -/
inductive Places (t : Target) (l : Layers) : Slot → Manipulator → Prop
  /-- The manipulator of a command. -/
  | leaf {i : ℕ} {key : KeyCode} {command : Command}
      (entry : l.entries.entries[i]? = some (key, .leaf command)) :
      Places t l ⟨i, 0⟩ (t.leaf key command)
  /-- The toggle of a sublayer. -/
  | toggle {i : ℕ} {key : KeyCode} {commands : OrderedMap Command}
      (entry : l.entries.entries[i]? = some (key, .sublayer commands)) :
      Places t l ⟨i, 0⟩ (t.toggle (.ofLayers l) key)
  /-- The dispatch of a command in a sublayer. -/
  | dispatch {i n : ℕ} {key commandKey : KeyCode} {commands : OrderedMap Command}
      {command : Command} (entry : l.entries.entries[i]? = some (key, .sublayer commands))
      (binding : commands.entries[n]? = some (commandKey, command)) :
      Places t l ⟨i, n + 1⟩ (t.dispatch key commandKey command)

theorem getElem?_rules (t : Target) (l : Layers) (i : ℕ) :
    (t.rules l)[i]? = l.entries.entries[i]?.map fun e => t.rule (.ofLayers l) e.1 e.2 := by
  rw [rules, List.getElem?_map]

@[simp] theorem manipulators_rule_leaf (t : Target) (r : Registry) (key : KeyCode)
    (command : Command) : (t.rule r key (.leaf command)).manipulators = [t.leaf key command] := rfl

@[simp] theorem manipulators_rule_sublayer (t : Target) (r : Registry) (key : KeyCode)
    (commands : OrderedMap Command) : (t.rule r key (.sublayer commands)).manipulators =
      t.toggle r key :: commands.entries.map fun e => t.dispatch key e.1 e.2 := rfl

/-- **The slots of compiled rules.** -/
theorem manipulatorAt?_rules_iff {slot : Slot} {m : Manipulator} :
    manipulatorAt? (t.rules l) slot = some m ↔ t.Places l slot m := by
  obtain ⟨i, n⟩ := slot
  rw [manipulatorAt?, getElem?_rules]
  constructor
  · intro h
    cases hentry : l.entries.entries[i]? with
    | none => simp [hentry] at h
    | some e =>
      obtain ⟨key, entry⟩ := e
      simp only [hentry, Option.map_some, Option.bind_some] at h
      cases entry with
      | leaf command =>
        cases n with
        | zero =>
          obtain rfl : t.leaf key command = m := Option.some.inj h
          exact .leaf hentry
        -- the rule of a command has a single manipulator
        | succ n => simp at h
      | sublayer commands =>
        cases n with
        | zero =>
          obtain rfl : t.toggle (.ofLayers l) key = m := Option.some.inj h
          exact .toggle hentry
        | succ n =>
          rw [manipulators_rule_sublayer, List.getElem?_cons_succ, List.getElem?_map,
            Option.map_eq_some_iff] at h
          obtain ⟨⟨commandKey, command⟩, hbinding, rfl⟩ := h
          exact .dispatch hentry hbinding
  · intro h
    cases h with
    | leaf hentry => simp [hentry]
    | toggle hentry => simp [hentry]
    | dispatch hentry hbinding => simp [hentry, hbinding]

/-! ### The shape of a rule -/

/-- `IsToggle l key m` says that `m` excludes every other sublayer of `l`, once,
and no more, and that it holds the variable of `key` at 1 until it is released. -/
structure IsToggle (l : Layers) (key : KeyCode) (m : Manipulator) : Prop where
  /-- The conditions, in the order of the sublayers. -/
  conditions : m.conditions =
    (l.sublayerKeys.filter (· ≠ key)).map fun j => variableIs (sublayerVariable j) 0
  /-- Another sublayer must be closed. -/
  other : ∀ j ∈ l.sublayerKeys, j ≠ key →
    m.conditionsOn (sublayerVariable j) = [variableIs (sublayerVariable j) 0]
  /-- The own variable is not tested. -/
  own : m.conditionsOn (sublayerVariable key) = []
  /-- Nor is one named after a command's root key. -/
  leaf : ∀ j command, (j, Entry.leaf command) ∈ l.entries.entries →
    m.conditionsOn (sublayerVariable j) = []
  /-- The only effect when the key goes down. -/
  onPress : m.onPress = some [assign (sublayerVariable key) (.int 1)]
  /-- The only effect when it comes up. -/
  onRelease : m.onRelease = some [assign (sublayerVariable key) (.int 0)]

/-- `t.IsDispatch key e m` says that `m` waits for the key of `e` and fires its
command while the sublayer of `key` is open, and does nothing on release. -/
structure IsDispatch (t : Target) (key : KeyCode) (e : KeyCode × Command) (m : Manipulator) :
    Prop where
  /-- The single condition. -/
  conditions : m.conditions = [variableIs (sublayerVariable key) 1]
  /-- Nothing happens on release. -/
  onRelease : m.onRelease = none
  /-- The key that is waited for. -/
  keyCode : m.trigger.keyCode = t.translation.apply e.1
  /-- The description is that of the command. -/
  description : m.description = e.2.description
  /-- The events are those of the command's actions. -/
  onPress : m.onPress = some (e.2.actions.map t.event)

/-- `t.RuleShape l e r` says what the manipulators of the rule `r` of the entry `e` are. -/
inductive RuleShape (t : Target) (l : Layers) : KeyCode × Entry → Rule → Prop
  /-- A command has one manipulator, without conditions and without effect on release. -/
  | leaf {key : KeyCode} {command : Command} {r : Rule} {m : Manipulator}
      (manipulators : r.manipulators = [m]) (conditions : m.conditions = [])
      (onRelease : m.onRelease = none) : RuleShape t l (key, .leaf command) r
  /-- A sublayer has its toggle, then a dispatch for each of its commands, as it has
  when it is compiled on its own with the registry of all layers. -/
  | sublayer {key : KeyCode} {commands : OrderedMap Command} {r : Rule} {toggle : Manipulator}
      {dispatches : List Manipulator} (manipulators : r.manipulators = toggle :: dispatches)
      (isToggle : IsToggle l key toggle)
      (isDispatch : List.Forall₂ (t.IsDispatch key) commands.entries dispatches)
      (alone : t.sublayerManipulators key commands (.ofLayers l) = r.manipulators) :
      RuleShape t l (key, .sublayer commands) r

/-! ### The cells of the matrix -/

/-- Of conditions that each close another sublayer, one tests a given variable if
the sublayer is among them, and none if it is not. -/
theorem filter_closed_conditions {keys : List KeyCode} (hkeys : keys.Nodup) (j : KeyCode) :
    ((keys.map fun k => variableIs (sublayerVariable k) 0).filter
        fun c => c.name = sublayerVariable j) =
      if j ∈ keys then [variableIs (sublayerVariable j) 0] else [] := by
  have hname : ∀ k, (variableIs (sublayerVariable k) 0).name = sublayerVariable j ↔ k = j :=
    fun k => sublayerVariable_injective.eq_iff
  have hcell : (keys.filter fun k => decide (k = j)) = List.replicate (keys.count j) j :=
    List.filter_eq j
  rw [List.filter_map]
  simp only [Function.comp_def, hname, hcell, List.map_replicate]
  split
  · next hj => rw [List.count_eq_one_of_mem hkeys hj]; rfl
  · next hj => rw [List.count_eq_zero_of_not_mem hj]; rfl

theorem conditions_toggle (t : Target) (l : Layers) (key : KeyCode) :
    (t.toggle (.ofLayers l) key).conditions =
      (l.sublayerKeys.filter (· ≠ key)).map fun j => variableIs (sublayerVariable j) 0 := by
  rw [toggle, Registry.others_ofLayers, List.map_map]
  rfl

/-- The conditions of a toggle hold if every other sublayer is closed. -/
theorem enabled_toggle_iff {key : KeyCode} {store : Store} :
    (t.toggle (.ofLayers l) key).Enabled store ↔
      ∀ j ∈ l.sublayerKeys, j ≠ key → store (sublayerVariable j) = .int 0 := by
  unfold Manipulator.Enabled
  rw [conditions_toggle]
  simp only [List.forall_mem_map, List.mem_filter, decide_eq_true_eq, and_imp]
  rfl

/-- A cell of the matrix: the condition of the toggle of `key` on the variable of `j`. -/
theorem conditionsOn_toggle (t : Target) (l : Layers) (key j : KeyCode) :
    (t.toggle (.ofLayers l) key).conditionsOn (sublayerVariable j) =
      if j ∈ l.sublayerKeys ∧ j ≠ key then [variableIs (sublayerVariable j) 0] else [] := by
  rw [Manipulator.conditionsOn, conditions_toggle,
    filter_closed_conditions (l.nodup_sublayerKeys.filter _)]
  simp only [List.mem_filter, decide_eq_true_eq]

theorem isToggle_toggle (t : Target) (l : Layers) (key : KeyCode) :
    IsToggle l key (t.toggle (.ofLayers l) key) where
  conditions := conditions_toggle t l key
  other := by
    intro j hj hne
    rw [conditionsOn_toggle, if_pos ⟨hj, hne⟩]
  own := by
    rw [conditionsOn_toggle, if_neg fun h => h.2 rfl]
  leaf := by
    intro j command hmem
    rw [conditionsOn_toggle, if_neg fun h => Layers.notMem_sublayerKeys_of_leaf hmem h.1]
  onPress := rfl
  onRelease := rfl

theorem isDispatch_dispatch (t : Target) (key : KeyCode) (e : KeyCode × Command) :
    t.IsDispatch key e (t.dispatch key e.1 e.2) :=
  ⟨rfl, rfl, rfl, rfl, rfl⟩

theorem ruleShape_rule (t : Target) (l : Layers) (e : KeyCode × Entry) :
    t.RuleShape l e (t.rule (.ofLayers l) e.1 e.2) := by
  obtain ⟨key, entry⟩ := e
  cases entry with
  | leaf command => exact .leaf rfl rfl rfl
  | sublayer commands =>
    refine .sublayer rfl (isToggle_toggle t l key) ?_ rfl
    rw [List.forall₂_map_right_iff, List.forall₂_same]
    exact fun e _ => isDispatch_dispatch t key e

/-- **The exclusion matrix.**  There is one rule for each entry, in order, of the
shape that its kind asks for; and of two sublayers at different places, whichever
comes first, the toggle of each tests the variable of the other exactly once. -/
theorem rules_exclusion_matrix (t : Target) (l : Layers) :
    List.Forall₂ (t.RuleShape l) l.entries.entries (t.rules l) ∧
      ∀ i j key other commands otherCommands, i ≠ j →
        l.entries.entries[i]? = some (key, .sublayer commands) →
        l.entries.entries[j]? = some (other, .sublayer otherCommands) →
        ∃ toggle, manipulatorAt? (t.rules l) ⟨i, 0⟩ = some toggle ∧
          toggle.conditionsOn (sublayerVariable other) =
            [variableIs (sublayerVariable other) 0] := by
  constructor
  · rw [rules, List.forall₂_map_right_iff, List.forall₂_same]
    exact fun e _ => ruleShape_rule t l e
  · intro i j key other commands otherCommands hij hi hj
    -- different places hold different keys
    have hne : other ≠ key := by
      rintro rfl
      exact hij (Entries.index_unique l.entries.nodup hi hj)
    refine ⟨_, manipulatorAt?_rules_iff.mpr (.toggle hi), ?_⟩
    exact (isToggle_toggle t l key).other other (Layers.mem_sublayerKeys_of_getElem? hj) hne

/-- The toggles of both sublayers exclude each other, across the command. -/
theorem rules_exclusion_matrix_filesAndMusic :
    (∃ toggle, manipulatorAt? (Target.rules {} Layers.filesAndMusic) ⟨0, 0⟩ = some toggle ∧
      toggle.conditionsOn "hyper_sublayer_m" = [variableIs "hyper_sublayer_m" 0]) ∧
    ∃ toggle, manipulatorAt? (Target.rules {} Layers.filesAndMusic) ⟨2, 0⟩ = some toggle ∧
      toggle.conditionsOn "hyper_sublayer_o" = [variableIs "hyper_sublayer_o" 0] := by
  have hmatrix := (rules_exclusion_matrix {} Layers.filesAndMusic).2
  constructor
  · exact hmatrix 0 2 "o" "m" _ _ (by decide) rfl rfl
  · exact hmatrix 2 0 "m" "o" _ _ (by decide) rfl rfl

end Target

end KeyLayers
