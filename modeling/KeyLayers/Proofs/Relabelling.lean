import KeyLayers.Output
import KeyLayers.Proofs.Config.Actions
import KeyLayers.Proofs.Rules

/-!
# A layout only relabels

The layout is looked up where a manipulator waits for a key, in the description
of a command's rule, and for those key presses that ask for it.  It must not be
looked up anywhere else: variables are named after the keys as people think of
them, so that a sublayer has the same variable under every layout.

So compiling under a layout is the same as settling the key presses that ask for
it beforehand, compiling without a layout, and relabelling the keys that are
waited for in the result.  What two layouts make of the same layers differs
accordingly little, and even less if the layers come from a configuration, whose
key presses never ask for a layout.

## Main definitions

* `Layers.settle` — the layers after the layout has been applied to key presses.
* `Layers.relabelRules` — rules of layers with the keys that they wait for relabelled.
* `Host.Manipulator.AlikeFor` — two manipulators that differ as little as layouts can make them.
* `Layers.Matched` — rules of the same layers, compared slot by slot.

## Main results

* `Target.rules_eq_relabelRules` — settle, compile, relabel.
* `Target.matched_rules` — the rules of the same layers under two layouts.
* `Target.rules_relabelling` — **a layout only relabels.**
-/

namespace KeyLayers

open Host

/-! ### Settling key presses -/

/-- The key press after the layout has been applied, if it asks for it. -/
def KeyPress.settle (t : Translation) (press : KeyPress) : KeyPress :=
  if press.translate then ⟨t.apply press.keyCode, press.modifiers, false⟩ else press

/-- The action after the layout has been applied. -/
def Action.settle (t : Translation) : Action → Action
  | .keyPress press => .keyPress (press.settle t)
  | action => action

/-- The command after the layout has been applied to its actions. -/
def Command.settle (t : Translation) (command : Command) : Command :=
  { command with actions := command.actions.map (Action.settle t) }

/-- The entry after the layout has been applied to its commands. -/
def Entry.settle (t : Translation) : Entry → Entry
  | .leaf command => .leaf (command.settle t)
  | .sublayer commands => .sublayer (commands.map (Command.settle t))

/-- The layers after the layout has been applied to their commands. -/
def Layers.settle (t : Translation) (l : Layers) : Layers := ⟨l.entries.map (Entry.settle t)⟩

/-! ### Relabelling rules -/

/-- The manipulator with the key that it waits for relabelled. -/
def Host.Manipulator.relabel (f : String → String) (m : Manipulator) : Manipulator :=
  { m with trigger := { m.trigger with keyCode := f m.trigger.keyCode } }

/-- The rule of an entry with the keys that it waits for relabelled.  The description of a command's
rule names that key. -/
def Entry.relabelRule (f : String → String) : Entry → Rule → Rule
  | .leaf _, r =>
    { description := r.manipulators.head?.elim r.description fun m =>
        "Hyper Key + " ++ f m.trigger.keyCode
      manipulators := r.manipulators.map (Manipulator.relabel f) }
  | .sublayer _, r => { r with manipulators := r.manipulators.map (Manipulator.relabel f) }

/-- The rules of layers with the keys that they wait for relabelled. -/
def Layers.relabelRules (l : Layers) (f : String → String) (rules : List Rule) : List Rule :=
  List.zipWith (fun e r => Entry.relabelRule f e.2 r) l.entries.entries rules

namespace Target

variable (t : Target)

/-- The target without a layout. -/
def plain : Target := { t with translation := .identity }

/-- The event of a settled action is that of the action under the layout. -/
theorem event_settle (action : Action) :
    t.plain.event (action.settle t.translation) = t.event action := by
  cases action with
  | keyPress press =>
    obtain ⟨keyCode, modifiers, translate⟩ := press
    cases translate with
    | false => rfl
    | true => rfl
  | consumerKey code => rfl
  | vendorKey code => rfl
  | shell command => rfl
  | setVariable name value => rfl

theorem map_event_settle (command : Command) :
    (command.settle t.translation).actions.map t.plain.event = command.actions.map t.event := by
  rw [Command.settle, List.map_map]
  exact List.map_congr_left fun action _ => event_settle t action

/-- Settling changes no variable. -/
theorem ofLayers_settle (l : Layers) (tr : Translation) :
    Registry.ofLayers (l.settle tr) = .ofLayers l := by
  have hkind : ∀ entry : Entry, (entry.settle tr).isSublayer = entry.isSublayer := by
    intro entry
    cases entry with
    | leaf command => rfl
    | sublayer commands => rfl
  rw [Registry.ofLayers, Registry.ofLayers, Layers.settle, OrderedMap.entries_map,
    List.filter_map, List.map_map]
  simp only [Function.comp_def, hkind]

theorem leaf_settle (key : KeyCode) (command : Command) :
    (t.plain.leaf key (command.settle t.translation)).relabel t.translation.apply =
      t.leaf key command := by
  rw [leaf, map_event_settle]
  rfl

theorem dispatch_settle (key commandKey : KeyCode) (command : Command) :
    (t.plain.dispatch key commandKey (command.settle t.translation)).relabel t.translation.apply =
      t.dispatch key commandKey command := by
  rw [dispatch, map_event_settle]
  rfl

theorem relabel_toggle (r : Registry) (key : KeyCode) :
    (t.plain.toggle r key).relabel t.translation.apply = t.toggle r key := rfl

theorem sublayerManipulators_settle (r : Registry) (key : KeyCode)
    (commands : OrderedMap Command) :
    (t.plain.sublayerManipulators key (commands.map (Command.settle t.translation)) r).map
        (Manipulator.relabel t.translation.apply) = t.sublayerManipulators key commands r := by
  rw [sublayerManipulators, sublayerManipulators, OrderedMap.entries_map, List.map_cons,
    List.map_map, List.map_map, relabel_toggle]
  simp only [Function.comp_def, dispatch_settle]

theorem rule_settle (r : Registry) (key : KeyCode) (entry : Entry) :
    entry.relabelRule t.translation.apply
        (t.plain.rule r key (entry.settle t.translation)) = t.rule r key entry := by
  cases entry with
  | leaf command =>
    exact congrArg (fun m => Rule.mk ("Hyper Key + " ++ t.translation.apply key) [m])
      (leaf_settle t key command)
  | sublayer commands =>
    exact congrArg (Rule.mk ("Hyper Key sublayer \"" ++ key ++ "\""))
      (sublayerManipulators_settle t r key commands)

/-- **Settle, compile, relabel.** -/
theorem rules_eq_relabelRules (l : Layers) : t.rules l =
    l.relabelRules t.translation.apply (t.plain.rules (l.settle t.translation)) := by
  rw [rules, rules, Layers.relabelRules, ofLayers_settle, Layers.settle, OrderedMap.entries_map,
    List.map_map, List.zipWith_map_right, List.zipWith_self]
  exact List.map_congr_left fun e _ => (rule_settle t _ e.1 e.2).symm

end Target

/-! ### Rules of the same layers -/

/-- The actions that the manipulator at a slot stands for, which are those of its command.  A toggle
stands for none. -/
def Layers.actionsAt (l : Layers) (slot : Slot) : List Action :=
  match l.entries.entries[slot.rule]? with
  | none => []
  | some (_, .leaf command) => command.actions
  | some (_, .sublayer commands) =>
    match slot.manipulator with
    | 0 => []
    | n + 1 => (commands.entries[n]?.map fun e => e.2.actions).getD []

/-- Two manipulators for the same actions that differ at most in the key that they wait for and in
the events of key presses that go through the layout. -/
structure Host.Manipulator.AlikeFor (actions : List Action) (m m' : Manipulator) : Prop where
  type : m'.type = m.type
  description : m'.description = m.description
  conditions : m'.conditions = m.conditions
  modifiers : m'.trigger.modifiers = m.trigger.modifiers
  onRelease : m'.onRelease = m.onRelease
  /-- Each event when the key goes down is the same, unless its action goes through the layout. -/
  onPress : ∀ j : ℕ,
    (∀ press : KeyPress, actions[j]? = some (Action.keyPress press) → press.translate = false) →
    (m'.onPress.map fun events => events[j]?) = m.onPress.map fun events => events[j]?

/-- Rules of the same layers, in which `R` relates the manipulators at each slot, and of which the
sublayers have the same descriptions. -/
structure Layers.Matched (l : Layers) (R : Slot → Manipulator → Manipulator → Prop)
    (rules rules' : List Rule) : Prop where
  /-- There are as many rules in both. -/
  length : rules'.length = rules.length
  /-- The manipulators are related; there are as many in both. -/
  manipulators : ∀ slot,
    Option.Rel (R slot) (manipulatorAt? rules slot) (manipulatorAt? rules' slot)
  /-- The descriptions of sublayers are the same. -/
  descriptions : ∀ (i : ℕ) key commands,
    l.entries.entries[i]? = some (key, .sublayer commands) →
      (rules'[i]?.map Rule.description) = rules[i]?.map Rule.description

section Matched

variable {l : Layers} {m m' : Manipulator} {actions : List Action}

/-- Without key presses that go through the layout, only the key that is waited for can differ. -/
theorem Host.Manipulator.AlikeFor.exists_relabel (h : m.AlikeFor actions m')
    (hplain : ∀ action ∈ actions, action.IsPlain) : ∃ key, m' = m.relabel fun _ => key := by
  have hevents : ∀ j, (m'.onPress.map fun events => events[j]?) =
      m.onPress.map fun events => events[j]? :=
    fun j => h.onPress j fun press hpress => hplain _ (List.mem_of_getElem? hpress)
  have hpress : m'.onPress = m.onPress := by
    cases hm : m.onPress with
    | none =>
      have hnone := hevents 0
      rw [hm, Option.map_none, Option.map_eq_none_iff] at hnone
      exact hnone
    | some events =>
      cases hm' : m'.onPress with
      | none =>
        have hsome := hevents 0
        rw [hm, hm'] at hsome
        cases hsome
      | some events' =>
        simp only [hm, hm', Option.map_some, Option.some.injEq] at hevents
        rw [List.ext_getElem? hevents]
  obtain ⟨type, description, conditions, ⟨keyCode, modifiers⟩, onPress, onRelease⟩ := m
  obtain ⟨type', description', conditions', ⟨keyCode', modifiers'⟩, onPress', onRelease'⟩ := m'
  obtain ⟨rfl, rfl, rfl, rfl, rfl, -⟩ := h
  obtain rfl : onPress' = onPress := hpress
  exact ⟨keyCode', rfl⟩

theorem Layers.Matched.imp {R R' : Slot → Manipulator → Manipulator → Prop}
    {rules rules' : List Rule} (h : l.Matched R rules rules')
    (himp : ∀ slot m m', R slot m m' → R' slot m m') : l.Matched R' rules rules' where
  length := h.length
  manipulators := by
    intro slot
    have hslot := h.manipulators slot
    generalize manipulatorAt? rules slot = m at hslot
    generalize manipulatorAt? rules' slot = m' at hslot
    cases hslot with
    | some hR => exact .some (himp slot _ _ hR)
    | none => exact .none
  descriptions := h.descriptions

/-- The actions at a slot are those of a command. -/
theorem Layers.exists_command_of_mem_actionsAt {slot : Slot} {action : Action}
    (h : action ∈ l.actionsAt slot) : ∃ command ∈ l.commandList, action ∈ command.actions := by
  obtain ⟨i, n⟩ := slot
  unfold actionsAt at h
  split at h
  · cases h
  · next key command hentry =>
    exact ⟨command, mem_commandList (List.mem_of_getElem? hentry) (List.mem_singleton_self _), h⟩
  · next key commands hentry =>
    cases n with
    | zero => cases h
    | succ n =>
      cases hbinding : commands.entries[n]? with
      | none => simp [hbinding] at h
      | some e =>
        have hmem : e.2 ∈ commands.entries.map Prod.snd :=
          List.mem_map_of_mem (List.mem_of_getElem? hbinding)
        refine ⟨e.2, mem_commandList (List.mem_of_getElem? hentry) hmem, ?_⟩
        simpa [hbinding] using h

end Matched

namespace Target

variable {t t' : Target} {l : Layers} {slot : Slot} {m : Manipulator}

/-- Actions that do not go through the layout have the same event everywhere. -/
theorem event_congr {action : Action}
    (h : ∀ press, action = .keyPress press → press.translate = false) :
    t'.event action = t.event action := by
  cases action with
  | keyPress press =>
    have hpress := h press rfl
    simp [event, hpress]
  | consumerKey code => rfl
  | vendorKey code => rfl
  | shell command => rfl
  | setVariable name value => rfl

theorem getElem?_map_event_congr {actions : List Action} {j : ℕ}
    (h : ∀ press, actions[j]? = some (.keyPress press) → press.translate = false) :
    (actions.map t'.event)[j]? = (actions.map t.event)[j]? := by
  rw [List.getElem?_map, List.getElem?_map]
  cases hj : actions[j]? with
  | none => rfl
  | some action =>
    have haction : t'.event action = t.event action :=
      event_congr fun press hpress => h press (hpress ▸ hj)
    rw [Option.map_some, Option.map_some, haction]

theorem modifiers_hyperTrigger_congr (hhyper : t'.hyper = t.hyper) (key : KeyCode) :
    (t'.hyperTrigger key).modifiers = (t.hyperTrigger key).modifiers := by
  rw [hyperTrigger, hyperTrigger, hhyper]

/-- Another layout has a manipulator at the same slot, which is alike. -/
theorem Places.exists_alikeFor (h : t.Places l slot m) (hhyper : t'.hyper = t.hyper) :
    ∃ m', t'.Places l slot m' ∧ m.AlikeFor (l.actionsAt slot) m' := by
  cases h with
  | @leaf i key command hentry =>
    have hactions : l.actionsAt ⟨i, 0⟩ = command.actions := by simp [Layers.actionsAt, hentry]
    refine ⟨_, .leaf hentry, rfl, rfl, rfl, modifiers_hyperTrigger_congr hhyper key, rfl, ?_⟩
    intro j hj
    rw [hactions] at hj
    exact congrArg some (getElem?_map_event_congr hj)
  | @toggle i key commands hentry =>
    exact ⟨_, .toggle hentry, rfl, rfl, rfl, modifiers_hyperTrigger_congr hhyper key, rfl,
      fun _ _ => rfl⟩
  | @dispatch i n key commandKey commands command hentry hbinding =>
    have hactions : l.actionsAt ⟨i, n + 1⟩ = command.actions := by
      simp [Layers.actionsAt, hentry, hbinding]
    refine ⟨_, .dispatch hentry hbinding, rfl, rfl, rfl, rfl, rfl, ?_⟩
    intro j hj
    rw [hactions] at hj
    exact congrArg some (getElem?_map_event_congr hj)

/-- **The rules of the same layers under two layouts.** -/
theorem matched_rules (l : Layers) (hhyper : t'.hyper = t.hyper) :
    l.Matched (fun slot m m' => m.AlikeFor (l.actionsAt slot) m') (t.rules l) (t'.rules l) where
  length := by rw [rules, rules, List.length_map, List.length_map]
  manipulators := by
    intro slot
    cases hm : manipulatorAt? (t.rules l) slot with
    | some m =>
      -- what stands at a slot is a matter of the layers, whatever the layout
      obtain ⟨m', hplace, halike⟩ := (manipulatorAt?_rules_iff.mp hm).exists_alikeFor hhyper
      rw [manipulatorAt?_rules_iff.mpr hplace]
      exact .some halike
    -- a slot of the other layout's rules would be one of these rules too
    | none =>
      cases hm' : manipulatorAt? (t'.rules l) slot with
      | none => exact .none
      | some m' =>
        obtain ⟨m, hplace, -⟩ := (manipulatorAt?_rules_iff.mp hm').exists_alikeFor hhyper.symm
        rw [manipulatorAt?_rules_iff.mpr hplace] at hm
        cases hm
  descriptions := by
    intro i key commands hentry
    rw [getElem?_rules, getElem?_rules, hentry]
    rfl

end Target

/-! ### Configurations -/

/-- The configuration with another layout and other remapped keys. -/
def Config.withLayout (c : Config) (layout : Layout) (remap : OrderedMap String) : Config :=
  { c with layout := layout.name, remap := remap }

theorem Layout.ofName?_name (layout : Layout) : ofName? layout.name = some layout := by
  cases layout <;> decide

theorem Format.ofName?_name (format : Format) : ofName? format.name = some format := by
  cases format <;> decide

/-- Under a known layout, a configuration that describes layers has an output. -/
theorem Config.build_withLayout {c : Config} {l : Layers} (h : c.toLayers = .ok l)
    (layout : Layout) (remap : OrderedMap String) (format : Format) (title : Option String) :
    (c.withLayout layout remap).build (some format.name) title =
      .ok (c.output title (Target.rules
        ⟨⟨layout.table.insertAll (Aliases.canonical remap).entries⟩, c.hyper⟩ l) format) := by
  have hlayers : (c.withLayout layout remap).toLayers = .ok l := h
  have htarget : (c.withLayout layout remap).target =
      .ok ⟨⟨layout.table.insertAll (Aliases.canonical remap).entries⟩, c.hyper⟩ := by
    rw [target, withLayout, Translation.ofLayout, Layout.ofName?_name]
    rfl
  rw [build, Option.bind_some, Format.ofName?_name]
  simp only [hlayers, htarget]
  cases format with
  | rules => rfl
  | profile => rfl

/-- **A layout only relabels.**  Compiling under a layout is settling the key presses that ask for
it, compiling without a layout, and relabelling the keys that are waited for.  Hence two layouts
give rules that differ in these keys, in the descriptions of commands' rules, and in the events of
key presses that ask for the layout, at most.  And a configuration that describes layers has, under
any two known layouts and with any remapped keys, outputs that differ only in the keys that are
waited for and in the descriptions of commands' rules. -/
theorem Target.rules_relabelling (t : Target) (l : Layers) :
    t.rules l = l.relabelRules t.translation.apply (t.plain.rules (l.settle t.translation)) ∧
      (∀ other : Translation,
        l.Matched (fun slot m m' => m.AlikeFor (l.actionsAt slot) m') (t.rules l)
          (Target.rules { t with translation := other } l)) ∧
      ∀ c : Config, c.toLayers = .ok l →
        ∀ (layout layout' : Layout) (remap remap' : OrderedMap String) (format : Format)
          (title : Option String), ∃ rules rules',
            (c.withLayout layout remap).build (some format.name) title =
              .ok (c.output title rules format) ∧
            (c.withLayout layout' remap').build (some format.name) title =
              .ok (c.output title rules' format) ∧
            l.Matched (fun _ m m' => ∃ key, m' = m.relabel fun _ => key) rules rules' := by
  refine ⟨rules_eq_relabelRules t l, fun other => matched_rules l rfl, ?_⟩
  intro c hlayers layout layout' remap remap' format title
  refine ⟨_, _, Config.build_withLayout hlayers layout remap format title,
    Config.build_withLayout hlayers layout' remap' format title,
    Layers.Matched.imp (matched_rules l rfl) fun slot m m' halike => halike.exists_relabel ?_⟩
  intro action haction
  obtain ⟨command, hcommand, hmem⟩ := Layers.exists_command_of_mem_actionsAt haction
  exact Layers.isPlain_of_toLayers hlayers hcommand action hmem

/-- Under Colemak with `f6` remapped, the browser and the music have rules that differ from those
under QWERTY only in the keys that they wait for. -/
theorem Target.rules_relabelling_browser : ∃ rules rules',
    (Config.browserAndMusic.withLayout .qwerty .empty).build (some "rules") none =
      .ok (Config.browserAndMusic.output none rules .rules) ∧
    (Config.browserAndMusic.withLayout .colemak (.ofList [("F6", "f7")])).build (some "rules") none =
      .ok (Config.browserAndMusic.output none rules' .rules) ∧
    Layers.browserAndMusic.Matched (fun _ m m' => ∃ key, m' = m.relabel fun _ => key)
      rules rules' :=
  (rules_relabelling {} .browserAndMusic).2.2 .browserAndMusic Config.toLayers_browserAndMusic
    .qwerty .colemak .empty (.ofList [("F6", "f7")]) .rules none

end KeyLayers
