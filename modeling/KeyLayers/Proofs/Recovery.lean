import KeyLayers.Proofs.Config.Actions
import KeyLayers.Proofs.Locality
import KeyLayers.Proofs.Output.RoundTrip
import KeyLayers.Proofs.Translation

/-!
# Layers can be recovered from their rules

Much of what layers say is said in an indirect way by their rules.  Whether a
root key fires a command or opens a sublayer shows only in what is sent when the
key comes up, all kinds of actions share one kind of event, a list of modifiers
that is empty is not written at all, and the keys stand there as the layout has
moved them.  Still nothing is lost, as long as the layout merges no keys: there is
a reading of rules that gives the layers back which they were compiled from.  The
one thing that rules cannot tell is whether a key that they send has gone through
the layout or has been meant as it stands.

## Main definitions

* `Action.isSettled`, `Layers.IsSettled` — no key press goes through the layout.
* `Layers.ofRules?` — the layers that rules were compiled from.
* `Host.rulesText` — the text of rules.

## Main results

* `Layers.ofRules?_rules` — rules give back their layers.
* `Host.rulesText_injective` — a text belongs to one list of rules.
* `Target.rules_loseNothing` — **layers with the same rules are the same.**
-/

namespace KeyLayers

open Host

/-! ### Settled layers -/

/-- Whether an action means its key as it stands. -/
def Action.isSettled : Action → Bool
  | .keyPress press => !press.translate
  | _ => true

/-- No key press of the layers goes through the layout. -/
def Layers.IsSettled (l : Layers) : Prop :=
  ∀ command ∈ l.commandList, ∀ action ∈ command.actions, action.isSettled

instance : DecidablePred Layers.IsSettled := fun l =>
  inferInstanceAs (Decidable (∀ command ∈ l.commandList, ∀ action ∈ command.actions,
    action.isSettled = true))

/-! ### Reading rules -/

/-- The modifier key of a modifier. -/
def Host.Modifier.key? : Host.Modifier → Option KeyLayers.Modifier
  | .any => none
  | .key m => some m

/-- The action that an event stands for. -/
def Host.Event.action? : Event → Option Action
  | ⟨some key, none, none, none, none, modifiers⟩ =>
    some (.keyPress ⟨key, (modifiers.getD []).filterMap Modifier.key?, false⟩)
  | ⟨none, some code, none, none, none, none⟩ => some (.consumerKey code)
  | ⟨none, none, some code, none, none, none⟩ => some (.vendorKey code)
  | ⟨none, none, none, some command, none, none⟩ => some (.shell command)
  | ⟨none, none, none, none, some v, none⟩ => some (.setVariable v.name v.value)
  | _ => none

/-- The command that a manipulator fires. -/
def Host.Manipulator.command? (m : Manipulator) : Option Command :=
  ((m.onPress.getD []).mapM Event.action?).map fun actions => ⟨actions, m.description⟩

section Reading

variable (original : String → KeyCode)

/-- The key of a command and the command, from the manipulator that fires it. -/
def Host.Manipulator.binding? (m : Manipulator) : Option (KeyCode × Command) :=
  m.command?.map fun command => (original m.trigger.keyCode, command)

/-- The root key and the entry that a rule stands for.  The rule of a sublayer begins with a
manipulator that sends something when its key comes up. -/
def Host.Rule.rootBinding? (r : Rule) : Option (KeyCode × Entry) :=
  match r.manipulators with
  | [] => none
  | first :: dispatches =>
    match first.onRelease with
    | none => (first.binding? original).map fun e => (e.1, .leaf e.2)
    | some _ =>
      (dispatches.mapM (Manipulator.binding? original)).map fun es =>
        (original first.trigger.keyCode, .sublayer (.ofList es))

/-- The layers that rules were compiled from, if `original` says which key a place was meant
for. -/
def Layers.ofRules? (rules : List Rule) : Option Layers :=
  (rules.mapM (Rule.rootBinding? original)).map fun es => ⟨.ofList es⟩

end Reading

/-! ### Rules give back their layers -/

/-- What can be read back one by one can be read back as a list. -/
theorem mapM_map_of_leftInverse {α β : Type} {write : α → β} {read : β → Option α} {as : List α}
    (h : ∀ a ∈ as, read (write a) = some a) : (as.map write).mapM read = some as := by
  induction as with
  | nil => rfl
  | cons a as ih =>
    have hhead := h a List.mem_cons_self
    have htail := ih fun a' ha' => h a' (List.mem_cons_of_mem _ ha')
    rw [List.map_cons, List.mapM_cons, hhead, htail]
    rfl

namespace Target

variable (t : Target) {original : String → KeyCode}

/-- The event of a settled action stands for that action. -/
theorem action?_event {action : Action} (h : action.isSettled) :
    (t.event action).action? = some action := by
  cases action with
  | keyPress press =>
    obtain ⟨keyCode, modifiers, translate⟩ := press
    obtain rfl : translate = false := by simpa [Action.isSettled] using h
    cases modifiers with
    | nil => rfl
    | cons m ms =>
      have hkeys : ((m :: ms).map Host.Modifier.key).filterMap Modifier.key? = m :: ms := by
        rw [List.filterMap_map]
        exact List.filterMap_some
      exact congrArg (fun ms => some (Action.keyPress ⟨keyCode, ms, false⟩)) hkeys
  | consumerKey code => rfl
  | vendorKey code => rfl
  | shell command => rfl
  | setVariable name value => rfl

/-- A manipulator with the events and the description of a command stands for it. -/
theorem command?_eq {m : Manipulator} {command : Command}
    (hpress : m.onPress = some (command.actions.map t.event))
    (hdescription : m.description = command.description)
    (h : ∀ action ∈ command.actions, action.isSettled) : m.command? = some command := by
  have hactions : (command.actions.map t.event).mapM Event.action? = some command.actions :=
    mapM_map_of_leftInverse fun action haction => t.action?_event (h action haction)
  rw [Manipulator.command?, hpress, hdescription, Option.getD_some, hactions]
  rfl

variable (hkey : ∀ key, original (t.translation.apply key) = key)

include hkey

theorem binding?_leaf (key : KeyCode) {command : Command}
    (h : ∀ action ∈ command.actions, action.isSettled) :
    (t.leaf key command).binding? original = some (key, command) := by
  have hcommand : (t.leaf key command).command? = some command := t.command?_eq rfl rfl h
  rw [Manipulator.binding?, hcommand]
  exact congrArg (fun key => some (key, command)) (hkey key)

theorem binding?_dispatch {key commandKey : KeyCode} {command : Command}
    (h : ∀ action ∈ command.actions, action.isSettled) :
    (t.dispatch key commandKey command).binding? original = some (commandKey, command) := by
  have hcommand : (t.dispatch key commandKey command).command? = some command :=
    t.command?_eq rfl rfl h
  rw [Manipulator.binding?, hcommand]
  exact congrArg (fun key => some (key, command)) (hkey commandKey)

/-- The rule of an entry stands for that entry. -/
theorem rootBinding?_rule (registry : Registry) {key : KeyCode} {entry : Entry}
    (h : ∀ command ∈ entry.commandList, ∀ action ∈ command.actions, action.isSettled) :
    (t.rule registry key entry).rootBinding? original = some (key, entry) := by
  cases entry with
  | leaf command =>
    have hbinding := t.binding?_leaf hkey key (h command (List.mem_singleton_self _))
    show ((t.leaf key command).binding? original).map _ = _
    rw [hbinding]
    rfl
  | sublayer commands =>
    have hdispatches : (commands.entries.map fun e => t.dispatch key e.1 e.2).mapM
        (Manipulator.binding? original) = some commands.entries :=
      mapM_map_of_leftInverse fun e he =>
        t.binding?_dispatch hkey (h e.2 (List.mem_map_of_mem he))
    show (List.mapM (Manipulator.binding? original) _).map _ = _
    rw [hdispatches, Option.map_some, OrderedMap.ofList_entries]
    exact congrArg (fun key => some (key, Entry.sublayer commands)) (hkey key)

/-- **Rules give back their layers.** -/
theorem ofRules?_rules {l : Layers} (h : l.IsSettled) :
    Layers.ofRules? original (t.rules l) = some l := by
  have hentries : (t.rules l).mapM (Rule.rootBinding? original) = some l.entries.entries :=
    mapM_map_of_leftInverse fun e he => t.rootBinding?_rule hkey _ fun command hcommand =>
      h command (Layers.mem_commandList he hcommand)
  rw [Layers.ofRules?, hentries, Option.map_some, OrderedMap.ofList_entries]

end Target

/-! ### Texts -/

/-- The text of rules in the form that the host reads. -/
def Host.rulesText (i : Json.Indent) (rules : List Rule) : String :=
  Json.render i (rulesValue .wire rules)

/-- The text of rules is read as their value tree. -/
theorem Host.read_rulesText (i : Json.Indent) (rules : List Rule) :
    Json.read (rulesText i rules) = some (rulesValue .wire rules) := by
  have hwhite : Json.IsWhite "".toList := Json.IsWhite.nil
  have hread := Json.read_render i (plain_rulesValue .wire rules) hwhite
  rwa [String.append_empty] at hread

/-- A text belongs to one list of rules, in whatever layout it is written. -/
theorem Host.rulesText_injective {i i' : Json.Indent} {rules rules' : List Rule}
    (h : rulesText i rules = rulesText i' rules') : rules = rules' := by
  have hvalue : rulesValue .wire rules = rulesValue .wire rules' := by
    have hread := congrArg Json.read h
    rw [read_rulesText, read_rulesText] at hread
    exact Option.some.inj hread
  have hdecode := (restores_rules .wire).decode rules
  rw [hvalue, (restores_rules .wire).decode rules'] at hdecode
  exact (Verdict.accepted.inj hdecode).symm

namespace Target

/-- **Layers with the same rules are the same.**  This holds for every hyper chord and every layout
that merges no keys, as the known layouts do not, and already if only the texts of the rules agree,
in whatever layout each of them is written. -/
theorem rules_loseNothing :
    (∀ name tr, Translation.ofLayout name .empty = .ok tr → Function.Injective tr.apply) ∧
    ∀ t : Target, Function.Injective t.translation.apply →
      ∀ l l' : Layers, l.IsSettled → l'.IsSettled →
        ∀ i i' : Json.Indent, rulesText i (t.rules l) = rulesText i' (t.rules l') → l = l' := by
  refine ⟨fun _ _ htr => Translation.injective_of_ofLayout htr, ?_⟩
  intro t hinjective l l' hl hl' i i' htext
  obtain ⟨original, horiginal⟩ := hinjective.hasLeftInverse
  have hrules : t.rules l = t.rules l' := rulesText_injective htext
  have hback := t.ofRules?_rules horiginal hl
  rw [hrules, t.ofRules?_rules horiginal hl'] at hback
  exact (Option.some.inj hback).symm

theorem rules_loseNothing_filesAndMusic :
    (Layers.filesAndMusic.remove "m").put "m"
        (.sublayer (.ofList [("f6", ⟨[.consumerKey "play_or_pause"], none⟩)])) =
      Layers.filesAndMusic := by
  have hcolemak : Translation.ofLayout "colemak" .empty = .ok ⟨Layout.colemak.table⟩ := rfl
  have hrules : Target.rules ⟨⟨Layout.colemak.table⟩, [.control]⟩
      ((Layers.filesAndMusic.remove "m").put "m"
        (.sublayer (.ofList [("f6", ⟨[.consumerKey "play_or_pause"], none⟩)]))) =
      Target.rules ⟨⟨Layout.colemak.table⟩, [.control]⟩ Layers.filesAndMusic := by decide
  exact rules_loseNothing.2 _ (rules_loseNothing.1 "colemak" _ hcolemak) _ _ (by decide)
    (by decide) .compact .compact (congrArg (rulesText .compact) hrules)

end Target

end KeyLayers
