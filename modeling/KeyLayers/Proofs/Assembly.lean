import KeyLayers.Assembly
import KeyLayers.Proofs.Host.RoundTrip
import KeyLayers.Proofs.Relabelling

/-!
# Assembling never fails

Every record that goes into the rules is checked while it is made, and the checks
look as if each of them could fail.  None does: the arguments have the kinds that
the schemas ask for, and every modifier of a key or of the hyper chord has a
namesake among the host's modifiers.  So what is assembled is what the total
functions of `Target` give, and a configuration is refused only for its format,
its layers or its layout.

## Main results

* `AssemblyFault.hostModifier_eq` — no modifier is unknown to the host.
* `Assembler.event_eq`, `Assembler.toggle_eq`, … — no part fails.
* `Target.assemble_rules` — nor do the rules of any layers.
* `Config.assemble_spec` — **when a configuration is refused, and what it gives otherwise.**
-/

namespace KeyLayers

open Host Decoder AssemblyFault

/-! ### Records -/

namespace AssemblyFault

theorem make_eq_ok {α : Type} {s : Schema α} {arguments : Entries Value} {a : α}
    (h : s.decode (.map arguments) = .accepted a) : make s arguments = .ok a := by
  rw [make, Schema.validate, h]
  rfl

/-- The two families of modifiers are declared apart, but by the same names. -/
theorem hostModifier_eq (m : KeyLayers.Modifier) : hostModifier m = .ok (.key m) := by
  cases m <;> rfl

theorem mapM_eq_ok {α β : Type} {f : α → Except AssemblyFault β} {g : α → β}
    (h : ∀ a, f a = .ok (g a)) (as : List α) : as.mapM f = .ok (as.map g) := by
  obtain rfl : f = fun a => pure (g a) := funext h
  exact List.mapM_pure

theorem hostModifiers_eq (ms : List KeyLayers.Modifier) :
    ms.mapM hostModifier = .ok (ms.map .key) :=
  mapM_eq_ok hostModifier_eq ms

end AssemblyFault

namespace Target

/-- The assembler for a target, which always exists. -/
def assembler (t : Target) : Assembler := ⟨t.translation, t.hyper.map .key⟩

theorem ofTarget_eq (t : Target) : Assembler.ofTarget t = .ok t.assembler := by
  rw [Assembler.ofTarget, hostModifiers_eq]
  rfl

end Target

namespace Assembler

theorem assign_eq (name : String) (value : Scalar) :
    assign name value = .ok (KeyLayers.assign name value) := by
  have hassignment : make Assignment.schema [("name", .text name), ("value", value.toValue)] =
      .ok ⟨name, value⟩ :=
    make_eq_ok (Assignment.decode_of_fields (.present rfl) (.present rfl))
  have hevent : make Event.schema
      [("set_variable", (⟨name, value⟩ : Assignment).toValue .full)] =
      .ok (KeyLayers.assign name value) :=
    make_eq_ok (Event.decode_of_fields (.absent rfl) (.absent rfl) (.absent rfl) (.absent rfl)
      (.present rfl) (.absent rfl))
  rw [assign, hassignment]
  exact hevent

theorem make_consumerKey (code : String) :
    make Event.schema [("consumer_key_code", .text code)] =
      .ok { consumerKeyCode := some code } :=
  make_eq_ok (Event.decode_of_fields (f := .full) (.absent rfl) (.present rfl)
    (.absent rfl) (.absent rfl) (.absent rfl) (.absent rfl))

theorem make_vendorKey (code : String) :
    make Event.schema [("apple_vendor_keyboard_key_code", .text code)] =
      .ok { vendorKeyCode := some code } :=
  make_eq_ok (Event.decode_of_fields (f := .full) (.absent rfl) (.absent rfl)
    (.present rfl) (.absent rfl) (.absent rfl) (.absent rfl))

theorem variableIs_eq (name : String) (value : Int) :
    variableIs name value = .ok (KeyLayers.variableIs name value) :=
  make_eq_ok (Condition.decode_of_fields (.present rfl) (.present rfl) (.present rfl))

theorem trigger_eq (keyCode : String) (mandatory : List Host.Modifier) :
    trigger keyCode mandatory = .ok ⟨keyCode, some { mandatory := some mandatory }⟩ := by
  have hmodifiers : make TriggerModifiers.schema [("mandatory", modifiersValue mandatory)] =
      .ok { mandatory := some mandatory } :=
    make_eq_ok (TriggerModifiers.decode_of_fields (.present rfl) (.absent rfl))
  rw [trigger, hmodifiers]
  exact make_eq_ok (Trigger.decode_of_fields (f := .full) (.present rfl) (.present rfl))

end Assembler

namespace Target

open Assembler

variable (t : Target)

/-! ### Events and manipulators -/

theorem assemble_event (action : Action) :
    t.assembler.event (.action action) = .ok (t.event action) := by
  cases action with
  | keyPress p =>
    obtain ⟨keyCode, modifiers, translate⟩ := p
    rw [Assembler.event, hostModifiers_eq]
    refine make_eq_ok (Event.decode_of_fields (f := .full) (.present rfl) (.absent rfl)
      (.absent rfl) (.absent rfl) (.absent rfl) (.present ?_))
    cases modifiers <;> rfl
  | consumerKey code => exact make_consumerKey code
  | vendorKey code => exact make_vendorKey code
  | shell command =>
    exact make_eq_ok (Event.decode_of_fields (f := .full) (.absent rfl) (.absent rfl)
      (.absent rfl) (.present rfl) (.absent rfl) (.absent rfl))
  | setVariable name value => exact assign_eq name value

theorem assemble_events (command : Command) :
    t.assembler.events command = .ok (command.actions.map t.event) :=
  mapM_eq_ok t.assemble_event command.actions

theorem assemble_hyperTrigger (key : KeyCode) :
    t.assembler.hyperTrigger key = .ok (t.hyperTrigger key) :=
  trigger_eq _ _

theorem assemble_toggle (registry : Registry) (key : KeyCode) :
    t.assembler.toggle registry key = .ok (t.toggle registry key) := by
  have hconditions := mapM_eq_ok (fun name => variableIs_eq name 0) (registry.others key)
  rw [Assembler.toggle, assemble_hyperTrigger, hconditions, assign_eq, assign_eq]
  exact make_eq_ok (Manipulator.decode_of_fields (f := .full) rfl (.present rfl)
    ((restores_listOf (Condition.restores .full)).defaulted (.present rfl))
    (triggerField_of_from_ rfl (.present rfl)) (.present rfl) (.present rfl))

theorem assemble_dispatch (key commandKey : KeyCode) (command : Command) :
    t.assembler.dispatch key commandKey command = .ok (t.dispatch key commandKey command) := by
  rw [Assembler.dispatch, trigger_eq, variableIs_eq, assemble_events]
  exact make_eq_ok (Manipulator.decode_of_fields (f := .full) rfl (.present rfl)
    ((restores_listOf (Condition.restores .full)).defaulted (.present rfl))
    (triggerField_of_from_ rfl (.present rfl)) (.present rfl) (.absent rfl))

theorem assemble_leaf (key : KeyCode) (command : Command) :
    t.assembler.leaf key command = .ok (t.leaf key command) := by
  rw [Assembler.leaf, assemble_hyperTrigger, assemble_events]
  exact make_eq_ok (Manipulator.decode_of_fields (f := .full) rfl (.present rfl) rfl
    (triggerField_of_from_ rfl (.present rfl)) (.present rfl) (.absent rfl))

theorem assemble_sublayerManipulators (key : KeyCode) (commands : OrderedMap Command)
    (registry : Registry) :
    t.assembler.sublayerManipulators key commands registry =
      .ok (t.sublayerManipulators key commands registry) := by
  have hdispatches := mapM_eq_ok
    (fun e : KeyCode × Command => t.assemble_dispatch key e.1 e.2) commands.entries
  rw [Assembler.sublayerManipulators, assemble_toggle, hdispatches]
  rfl

/-! ### Rules -/

theorem assemble_rule (registry : Registry) (key : KeyCode) (entry : Entry) :
    t.assembler.rule registry key entry = .ok (t.rule registry key entry) := by
  cases entry with
  | leaf command =>
    rw [Assembler.rule, assemble_leaf]
    exact make_eq_ok (Rule.decode_of_fields (f := .full) (.present rfl) (.present rfl))
  | sublayer commands =>
    rw [Assembler.rule, assemble_sublayerManipulators]
    exact make_eq_ok (Rule.decode_of_fields (f := .full) (.present rfl) (.present rfl))

/-- No record of the rules of any layers fails to be made. -/
theorem assemble_eq (l : Layers) : t.assemble l = .ok (t.rules l) := by
  rw [assemble, ofTarget_eq]
  exact mapM_eq_ok (fun e : KeyCode × Entry => t.assemble_rule (.ofLayers l) e.1 e.2)
    l.entries.entries

end Target

/-! ### Function keys -/

namespace Assembler

theorem keyEvent_eq (keyCode : String) (action : Action) :
    keyEvent keyCode action = (KeyLayers.keyEvent keyCode action).mapError .noKeyAction := by
  cases action with
  | keyPress p =>
    exact make_eq_ok (Event.decode_of_fields (f := .full) (.present rfl) (.absent rfl)
      (.absent rfl) (.absent rfl) (.absent rfl) (.absent rfl))
  | consumerKey code => exact make_consumerKey code
  | vendorKey code => exact make_vendorKey code
  | shell command => rfl
  | setVariable name value => rfl

theorem replacement_eq_ok {keyCode : String} {action : Action} {event : Event}
    (h : KeyLayers.keyEvent keyCode action = .ok event) :
    replacement keyCode action = .ok ⟨⟨keyCode, none⟩, [event]⟩ := by
  have htrigger : make Trigger.schema [("key_code", .text keyCode)] = .ok ⟨keyCode, none⟩ :=
    make_eq_ok (Trigger.decode_of_fields (f := .full) (.present rfl) (.absent rfl))
  rw [replacement, keyEvent_eq, h, htrigger]
  exact make_eq_ok (Replacement.decode_of_fields (triggerField_of_from_ rfl (.present rfl))
    (.present rfl))

theorem replacement_eq_error {keyCode : String} {action : Action} {e : NoKeyAction}
    (h : KeyLayers.keyEvent keyCode action = .error e) :
    replacement keyCode action = .error (.noKeyAction e) := by
  rw [replacement, keyEvent_eq, h]
  rfl

theorem mapM_replacement (es : Entries Action) :
    (es.mapM fun e => replacement e.1 e.2) = (replacementsOf es).mapError .noKeyAction := by
  induction es with
  | nil => rfl
  | cons e es ih =>
    obtain ⟨keyCode, action⟩ := e
    rw [List.mapM_cons, ih, replacementsOf]
    cases hevent : KeyLayers.keyEvent keyCode action with
    | error e =>
      rw [replacement_eq_error hevent]
      rfl
    | ok event =>
      rw [replacement_eq_ok hevent]
      cases replacementsOf es <;> rfl

/-- A table of function keys fails only where one of its actions presses no key. -/
theorem replacements_eq (table : OrderedMap Action) :
    replacements table = (KeyLayers.replacements table).mapError .noKeyAction :=
  mapM_replacement table.entries

end Assembler

/-! ### Configurations -/

/-- A text is only taken if it is not empty. -/
theorem firstNonempty_ne_empty (texts : List (Option String)) {otherwise : String}
    (h : otherwise ≠ "") : firstNonempty texts otherwise ≠ "" := by
  unfold firstNonempty
  cases hfind : (texts.filterMap id).find? (· ≠ "") with
  | none => exact h
  | some text => simpa using List.find?_some hfind

theorem Format.ofName?_eq_none_iff {s : String} :
    ofName? s = none ↔ s ∉ all.map name := by
  simp [ofName?]

theorem Layout.ofName?_eq_none_iff {s : String} :
    ofName? s = none ↔ s ∉ all.map name := by
  simp [ofName?]

namespace Config

variable (c : Config) (title : Option String)

theorem outputTitle_ne_empty : c.outputTitle title ≠ "" :=
  firstNonempty_ne_empty _ (by decide)

/-- The media row is a table of keys, so its replacements are not left out. -/
theorem assembleFunctionKeys_eq : c.assembleFunctionKeys = .ok c.outputFunctionKeys := by
  rw [assembleFunctionKeys, Assembler.replacements_eq, outputFunctionKeys]
  cases c.functionKeys <;> rfl

theorem assembleOutput_eq (rules : List Rule) (format : Format) :
    c.assembleOutput title rules format = .ok (c.output title rules format) := by
  cases format with
  | rules =>
    have hfile : Assembler.ruleFile (c.outputTitle title) rules =
        .ok ⟨c.outputTitle title, rules⟩ :=
      make_eq_ok (RuleFile.decode_of_fields (f := .full) (.present rfl) (.present rfl))
    rw [assembleOutput, hfile]
    rfl
  | profile =>
    have hblock : make RuleBlock.schema [("rules", rulesValue .full rules)] = .ok ⟨rules⟩ :=
      make_eq_ok (RuleBlock.decode_of_fields (f := .full) (.present rfl))
    have hprofile : Assembler.profile rules c.outputFunctionKeys =
        .ok ⟨⟨rules⟩, c.outputFunctionKeys⟩ := by
      rw [Assembler.profile, hblock]
      exact make_eq_ok (Profile.decode_of_fields (f := .full) (.present rfl) (.present rfl))
    rw [assembleOutput, assembleFunctionKeys_eq]
    show (Assembler.profile rules c.outputFunctionKeys).map Output.profile = _
    rw [hprofile]
    rfl

/-- Assembling an output is building it. -/
theorem assemble_eq (format : String) :
    c.assemble format title = (c.build (some format) title).mapError .build := by
  rw [assemble, build, Option.bind_some]
  cases Format.ofName? format with
  | none => rfl
  | some format =>
    cases c.toLayers with
    | error e => rfl
    | ok l =>
      cases c.target with
      | error e => rfl
      | ok t =>
        simp only [assembleFor, Target.assemble_eq]
        show (c.assembleOutput title (t.rules l) format).mapError AssemblyError.fault = _
        rw [assembleOutput_eq]
        rfl

variable (format : String)

/-- `c.Outcome format r` says that `r` is what `c` gives in a format: the first
of three refusals, or else an output with the rules of its layers. -/
inductive Outcome : Except AssemblyError Output → Prop
  | unknownFormat (hformat : format ∉ Format.all.map Format.name) :
    Outcome (.error (.build (.unknownFormat (some format))))
  | config {e : ConfigError} (hformat : format ∈ Format.all.map Format.name)
    (hlayers : c.toLayers = .error e) : Outcome (.error (.build (.config e)))
  | layout {l : Layers} (hformat : format ∈ Format.all.map Format.name)
    (hlayers : c.toLayers = .ok l) (hlayout : c.layout ∉ Layout.all.map Layout.name) :
    Outcome (.error (.build (.layout ⟨c.layout⟩)))
  | rules {l : Layers} {t : Target} {text : String} {rules : List Rule}
    (hformat : format = "rules") (hlayers : c.toLayers = .ok l)
    (hlayout : c.layout ∈ Layout.all.map Layout.name) (htarget : c.target = .ok t)
    (hrules : t.assemble l = .ok rules) (htitle : text ≠ "") :
    Outcome (.ok (.rules ⟨text, rules⟩))
  | profile {l : Layers} {t : Target} {rules : List Rule} {keys : List Replacement}
    (hformat : format = "profile") (hlayers : c.toLayers = .ok l)
    (hlayout : c.layout ∈ Layout.all.map Layout.name) (htarget : c.target = .ok t)
    (hrules : t.assemble l = .ok rules) : Outcome (.ok (.profile ⟨⟨rules⟩, keys⟩))

theorem target_of_notMem (h : c.layout ∉ Layout.all.map Layout.name) :
    c.target = .error ⟨c.layout⟩ := by
  rw [target, Translation.ofLayout, Layout.ofName?_eq_none_iff.mpr h]
  rfl

theorem exists_target (h : c.layout ∈ Layout.all.map Layout.name) : ∃ t, c.target = .ok t := by
  obtain ⟨layout, -, hname⟩ := List.mem_map.mp h
  rw [target, Translation.ofLayout, ← hname, Layout.ofName?_name]
  exact ⟨_, rfl⟩

theorem outcome_assemble : c.Outcome format (c.assemble format title) := by
  rw [assemble]
  by_cases hformat : format ∈ Format.all.map Format.name
  · obtain ⟨known, -, rfl⟩ := List.mem_map.mp hformat
    rw [Format.ofName?_name]
    cases hlayers : c.toLayers with
    | error e => exact .config hformat hlayers
    | ok l =>
      by_cases hlayout : c.layout ∈ Layout.all.map Layout.name
      · obtain ⟨t, htarget⟩ := c.exists_target hlayout
        have hassemble : c.assembleFor title l t known =
            .ok (c.output title (t.rules l) known) := by
          rw [assembleFor, Target.assemble_eq]
          exact c.assembleOutput_eq title (t.rules l) known
        simp only [htarget, hassemble]
        cases known with
        | rules =>
          exact .rules rfl hlayers hlayout htarget (t.assemble_eq l) (c.outputTitle_ne_empty title)
        | profile => exact .profile rfl hlayers hlayout htarget (t.assemble_eq l)
      · simp only [c.target_of_notMem hlayout]
        exact .layout hformat hlayers hlayout
  · rw [Format.ofName?_eq_none_iff.mpr hformat]
    exact .unknownFormat hformat

/-- **When a configuration is refused, and what it gives otherwise.**  The rules of
layers are always made, whatever stands in their actions.  So an output is
missing only for an unknown format, for a configuration that describes no layers
or for an unknown layout, in this order; otherwise it has exactly the rules of
the layers.  The parts can be left unchecked. -/
theorem assemble_spec :
    (∀ (t : Target) (l : Layers), t.assemble l = .ok (t.rules l)) ∧
    ∀ (c : Config) (format : String) (title : Option String),
      c.Outcome format (c.assemble format title) ∧
      ((∃ e, c.assemble format title = .error e) ↔
        format ∉ Format.all.map Format.name ∨ (∃ e, c.toLayers = .error e) ∨
          c.layout ∉ Layout.all.map Layout.name) ∧
      c.assemble format title = (c.build (some format) title).mapError .build := by
  refine ⟨Target.assemble_eq, fun c format title => ?_⟩
  have houtcome := c.outcome_assemble title format
  -- the refusals are read off the outcome in both directions
  refine ⟨houtcome, ?_, c.assemble_eq title format⟩
  constructor
  · rintro ⟨e, he⟩
    rw [he] at houtcome
    cases houtcome with
    | unknownFormat hformat => exact .inl hformat
    | config _ hlayers => exact .inr (.inl ⟨_, hlayers⟩)
    | layout _ _ hlayout => exact .inr (.inr hlayout)
  · intro h
    cases hassemble : c.assemble format title with
    | error e => exact ⟨e, rfl⟩
    | ok o =>
      -- an output excludes each of the three
      rw [hassemble] at houtcome
      obtain ⟨l, hformat, hlayers, hlayout⟩ : ∃ l, format ∈ Format.all.map Format.name ∧
          c.toLayers = .ok l ∧ c.layout ∈ Layout.all.map Layout.name := by
        cases houtcome with
        | rules hformat hlayers hlayout =>
          exact ⟨_, List.mem_map.mpr ⟨.rules, by decide, hformat.symm⟩, hlayers, hlayout⟩
        | profile hformat hlayers hlayout =>
          exact ⟨_, List.mem_map.mpr ⟨.profile, by decide, hformat.symm⟩, hlayers, hlayout⟩
      rcases h with h | ⟨e, h⟩ | h
      · exact absurd hformat h
      · simp [hlayers] at h
      · exact absurd hlayout h

end Config

end KeyLayers
