import KeyLayers.Proofs.MediaRow
import KeyLayers.Proofs.Rules

/-!
# Events send one thing

An event of the host is a record in which every field may be missing, so that
nothing about its type keeps an event from sending two things at once, or
nothing, or from holding modifiers down with no key to press.  The host would not
know what to do with such an event.  None is made: the events that are made are
those of actions and those that set a variable, and an action does one thing.

## Main definitions

* `Host.Event.kinds` — what an event sends.
* `Host.Event.WellFormed` — an event that sends one thing, and modifiers with a key only.
* `Layers.CommandAt` — the slots at which commands are fired.
* `Host.Manipulator.Sends` — a manipulator sends the actions of a command.

## Main results

* `Host.Event.wellFormed_iff` — the well-formed events are those of actions.
* `Target.Places.events_cases` — what the manipulators of compiled rules send.
* `Target.events_wellFormed` — **rules and function keys send well-formed events only, and a
  command is sent action by action.**
-/

namespace KeyLayers

open Host

/-! ### What an event sends -/

namespace Host

/-- The kinds of things that an event can send. -/
inductive EventKind
  /-- A key. -/
  | key
  /-- A media key. -/
  | consumerKey
  /-- A vendor's key. -/
  | vendorKey
  /-- A shell command. -/
  | shell
  /-- A variable to set. -/
  | assignment
  deriving DecidableEq, Repr

/-- The kinds, in order. -/
def EventKind.all : List EventKind := [.key, .consumerKey, .vendorKey, .shell, .assignment]

theorem EventKind.forall_iff {P : EventKind → Prop} : (∀ kind, P kind) ↔
    P .key ∧ P .consumerKey ∧ P .vendorKey ∧ P .shell ∧ P .assignment := by
  constructor
  · intro h
    exact ⟨h _, h _, h _, h _, h _⟩
  · rintro ⟨hkey, hconsumer, hvendor, hshell, hassignment⟩ kind
    cases kind <;> assumption

namespace Event

/-- Whether the field for a kind is set. -/
def has (event : Event) : EventKind → Bool
  | .key => event.keyCode.isSome
  | .consumerKey => event.consumerKeyCode.isSome
  | .vendorKey => event.vendorKeyCode.isSome
  | .shell => event.shellCommand.isSome
  | .assignment => event.assignment.isSome

/-- The kinds whose fields are set. -/
def kinds (event : Event) : List EventKind := EventKind.all.filter event.has

theorem mem_kinds_iff {event : Event} {kind : EventKind} :
    kind ∈ event.kinds ↔ event.has kind = true := by
  have hall : kind ∈ EventKind.all := by cases kind <;> decide
  rw [kinds, List.mem_filter, and_iff_right hall]

/-- The event sends one thing, and its modifiers, if there are any, are held with a key. -/
structure WellFormed (event : Event) : Prop where
  /-- Exactly one field is set. -/
  kind : ∃ kind, event.kinds = [kind]
  /-- There is no empty list of modifiers, and no modifier that stands for any. -/
  modifiers : ∀ ms, event.modifiers = some ms →
    ms ≠ [] ∧ .any ∉ ms ∧ event.kinds = [.key]

theorem wellFormed_of_modifiers_eq_none {event : Event} {kind : EventKind}
    (hkind : event.kinds = [kind]) (h : event.modifiers = none) : event.WellFormed where
  kind := ⟨kind, hkind⟩
  modifiers := by
    intro ms hms
    rw [h] at hms
    cases hms

/-- A well-formed event stays so without its modifiers. -/
theorem WellFormed.withoutModifiers {event : Event} (h : event.WellFormed) :
    event.withoutModifiers.WellFormed := by
  obtain ⟨kind, hkind⟩ := h.kind
  have hkind' : event.withoutModifiers.kinds = [kind] := hkind
  exact wellFormed_of_modifiers_eq_none hkind' rfl

end Event

end Host

/-! ### Events of actions -/

/-- The kind of what an action sends. -/
def Action.eventKind : Action → EventKind
  | .keyPress _ => .key
  | .consumerKey _ => .consumerKey
  | .vendorKey _ => .vendorKey
  | .shell _ => .shell
  | .setVariable .. => .assignment

theorem kinds_assign (name : String) (value : Scalar) :
    (assign name value).kinds = [.assignment] := rfl

theorem wellFormed_assign (name : String) (value : Scalar) : (assign name value).WellFormed :=
  Event.wellFormed_of_modifiers_eq_none (kinds_assign name value) rfl

/-- The event of an action sends what the action does. -/
theorem kinds_event (t : Target) (action : Action) :
    (t.event action).kinds = [action.eventKind] := by
  cases action with
  | keyPress press => rfl
  | consumerKey code => rfl
  | vendorKey code => rfl
  | shell command => rfl
  | setVariable name value => rfl

theorem wellFormed_event (t : Target) (action : Action) : (t.event action).WellFormed := by
  cases action with
  | keyPress press =>
    refine ⟨⟨.key, rfl⟩, fun ms hms => ?_⟩
    obtain ⟨keyCode, modifiers, translate⟩ := press
    cases modifiers with
    | nil => cases hms
    | cons m rest =>
      obtain rfl := Option.some.inj hms
      -- a modifier of a key press is a key, and none of the keys stands for any
      exact ⟨List.cons_ne_nil _ _, by simp, rfl⟩
  | consumerKey code => exact Event.wellFormed_of_modifiers_eq_none rfl rfl
  | vendorKey code => exact Event.wellFormed_of_modifiers_eq_none rfl rfl
  | shell command => exact Event.wellFormed_of_modifiers_eq_none rfl rfl
  | setVariable name value => exact wellFormed_assign name value

/-- Modifiers among which none stands for any are modifier keys. -/
theorem exists_map_key {ms : List Host.Modifier} (h : .any ∉ ms) :
    ∃ keys : List KeyLayers.Modifier, ms = keys.map .key := by
  induction ms with
  | nil => exact ⟨[], rfl⟩
  | cons m ms ih =>
    obtain ⟨keys, rfl⟩ := ih (List.not_mem_of_not_mem_cons h)
    cases m with
    | any => exact absurd List.mem_cons_self h
    | key m => exact ⟨m :: keys, rfl⟩

/-- The well-formed events are those of actions. -/
theorem Host.Event.wellFormed_iff {event : Event} :
    event.WellFormed ↔ ∃ action, event = Target.event {} action := by
  constructor
  · intro h
    obtain ⟨kind, hkind⟩ := h.kind
    have hset : ∀ k, event.has k = true ↔ k = kind := by
      intro k
      rw [← Event.mem_kinds_iff, hkind, List.mem_singleton]
    have hbare : kind ≠ .key → event.modifiers = none := by
      intro hne
      by_contra hsome
      obtain ⟨ms, hms⟩ := Option.ne_none_iff_exists'.mp hsome
      obtain ⟨-, -, hkey⟩ := h.modifiers ms hms
      exact hne (List.singleton_inj.mp (hkind.symm.trans hkey))
    obtain ⟨keyCode, consumer, vendor, shell, assignment, modifiers⟩ := event
    rw [EventKind.forall_iff] at hset
    -- all fields but one are missing, and that one is what the action needs
    cases kind
    all_goals
      simp only [Event.has, iff_true, reduceCtorEq, iff_false, Bool.not_eq_true,
        Option.isSome_eq_false_iff, Option.isNone_iff_eq_none] at hset
    case key =>
      obtain ⟨hkey, rfl, rfl, rfl, rfl⟩ := hset
      obtain ⟨code, rfl⟩ := Option.isSome_iff_exists.mp hkey
      cases modifiers with
      | none => exact ⟨.keyPress ⟨code, [], false⟩, rfl⟩
      | some ms =>
        obtain ⟨hne, hany, -⟩ := h.modifiers ms rfl
        obtain ⟨keys, rfl⟩ := exists_map_key hany
        have hkeys : keys.isEmpty = false := by simpa using hne
        exact ⟨.keyPress ⟨code, keys, false⟩, by simp [Target.event, hkeys]⟩
    case consumerKey =>
      obtain ⟨rfl, hconsumer, rfl, rfl, rfl⟩ := hset
      obtain ⟨code, rfl⟩ := Option.isSome_iff_exists.mp hconsumer
      obtain rfl : modifiers = none := hbare (by decide)
      exact ⟨.consumerKey code, rfl⟩
    case vendorKey =>
      obtain ⟨rfl, rfl, hvendor, rfl, rfl⟩ := hset
      obtain ⟨code, rfl⟩ := Option.isSome_iff_exists.mp hvendor
      obtain rfl : modifiers = none := hbare (by decide)
      exact ⟨.vendorKey code, rfl⟩
    case shell =>
      obtain ⟨rfl, rfl, rfl, hshell, rfl⟩ := hset
      obtain ⟨command, rfl⟩ := Option.isSome_iff_exists.mp hshell
      obtain rfl : modifiers = none := hbare (by decide)
      exact ⟨.shell command, rfl⟩
    case assignment =>
      obtain ⟨rfl, rfl, rfl, rfl, hassignment⟩ := hset
      obtain ⟨⟨name, value⟩, rfl⟩ := Option.isSome_iff_exists.mp hassignment
      obtain rfl : modifiers = none := hbare (by decide)
      exact ⟨.setVariable name value, rfl⟩
  · rintro ⟨action, rfl⟩
    exact wellFormed_event {} action

/-! ### Function keys -/

section FunctionKeys

variable {table : OrderedMap Action} {rs : List Replacement}

/-- A table that is accepted is replaced entry by entry. -/
theorem forall₂_replaces (h : replacements table = .ok rs) :
    List.Forall₂ Replaces table.entries rs := by
  by_cases hkeys : ∀ e ∈ table.entries, e.2.isKey
  · obtain ⟨rs', hrs', hreplaces⟩ := replacementsOf_eq_ok hkeys
    obtain rfl := Except.ok.inj (hrs'.symm.trans h)
    exact hreplaces
  · obtain ⟨before, keyCode, action, after, hes, hbefore, haction⟩ := exists_first_not_isKey hkeys
    rw [replacements, hes, replacementsOf_eq_error hbefore haction] at h
    cases h

theorem Replaces.wellFormed {entry : String × Action} {r : Replacement} (h : Replaces entry r) :
    ∀ event ∈ r.events, event.WellFormed := by
  rw [h.events, List.forall_mem_singleton]
  exact (wellFormed_event {} entry.2).withoutModifiers

theorem wellFormed_replacements (h : replacements table = .ok rs) :
    ∀ r ∈ rs, ∀ event ∈ r.events, event.WellFormed := by
  have hreplaces := forall₂_replaces h
  generalize table.entries = es at hreplaces
  clear h
  induction hreplaces with
  | nil => exact List.forall_mem_nil _
  | cons hr _ ih => exact List.forall_mem_cons.mpr ⟨hr.wellFormed, ih⟩

end FunctionKeys

/-! ### Rules -/

/-- The events of a manipulator, those of the press first. -/
def Host.Manipulator.events (m : Manipulator) : List Event :=
  m.onPress.getD [] ++ m.onRelease.getD []

/-- When its key goes down, the manipulator sends one event for each action of the command, in
order, and each is of the action's kind. -/
def Host.Manipulator.Sends (m : Manipulator) (command : Command) : Prop :=
  ∃ events, m.onPress = some events ∧
    List.Forall₂ (fun action event => event.kinds = [action.eventKind]) command.actions events

/-- `l.CommandAt slot command` says that the rules of `l` fire `command` at `slot`. -/
inductive Layers.CommandAt (l : Layers) : Slot → Command → Prop
  /-- The command of a root key has a rule of its own. -/
  | leaf {i : ℕ} {key : KeyCode} {command : Command}
      (entry : l.entries.entries[i]? = some (key, .leaf command)) : CommandAt l ⟨i, 0⟩ command
  /-- The commands of a sublayer come behind its toggle. -/
  | dispatch {i n : ℕ} {key commandKey : KeyCode} {commands : OrderedMap Command}
      {command : Command} (entry : l.entries.entries[i]? = some (key, .sublayer commands))
      (binding : commands.entries[n]? = some (commandKey, command)) :
      CommandAt l ⟨i, n + 1⟩ command

namespace Target

variable {t : Target} {l : Layers} {slot : Slot} {m : Manipulator}

/-- A manipulator of compiled rules fires a command, or it sets a variable for as long as its key
is held. -/
theorem Places.events_cases (h : t.Places l slot m) :
    (∃ command, l.CommandAt slot command ∧ m.onPress = some (command.actions.map t.event) ∧
      m.onRelease = none) ∨
    ∃ name, m.onPress = some [assign name (.int 1)] ∧
      m.onRelease = some [assign name (.int 0)] := by
  cases h with
  | leaf entry => exact .inl ⟨_, .leaf entry, rfl, rfl⟩
  | toggle entry => exact .inr ⟨_, rfl, rfl⟩
  | dispatch entry binding => exact .inl ⟨_, .dispatch entry binding, rfl, rfl⟩

theorem Places.wellFormed (h : t.Places l slot m) : ∀ event ∈ m.events, event.WellFormed := by
  rcases h.events_cases with ⟨command, -, hpress, hrelease⟩ | ⟨name, hpress, hrelease⟩
  · have hevents : m.events = command.actions.map t.event := by
      simp [Manipulator.events, hpress, hrelease]
    rw [hevents, List.forall_mem_map]
    exact fun action _ => wellFormed_event t action
  · have hevents : m.events = [assign name (.int 1), assign name (.int 0)] := by
      simp [Manipulator.events, hpress, hrelease]
    rw [hevents, List.forall_mem_cons, List.forall_mem_singleton]
    exact ⟨wellFormed_assign _ _, wellFormed_assign _ _⟩

/-- Each command is fired at its slot, action by action. -/
theorem exists_sends {command : Command} (h : l.CommandAt slot command) :
    ∃ m, manipulatorAt? (t.rules l) slot = some m ∧ m.Sends command := by
  have hmap : List.Forall₂ (fun action event => event.kinds = [action.eventKind])
      command.actions (command.actions.map t.event) := by
    rw [List.forall₂_map_right_iff, List.forall₂_same]
    exact fun action _ => kinds_event t action
  cases h with
  | leaf entry => exact ⟨_, manipulatorAt?_rules_iff.mpr (.leaf entry), _, rfl, hmap⟩
  | dispatch entry binding =>
    exact ⟨_, manipulatorAt?_rules_iff.mpr (.dispatch entry binding), _, rfl, hmap⟩

theorem exists_slot {rules : List Rule} {r : Rule} (hr : r ∈ rules) (hm : m ∈ r.manipulators) :
    ∃ slot, manipulatorAt? rules slot = some m := by
  obtain ⟨i, hi⟩ := List.mem_iff_getElem?.mp hr
  obtain ⟨n, hn⟩ := List.mem_iff_getElem?.mp hm
  exact ⟨⟨i, n⟩, by rw [manipulatorAt?, hi, Option.bind_some, hn]⟩

/-- **Rules and function keys send well-formed events only.**  Whatever the layout, the hyper chord
and the layers are, every event of every manipulator is well-formed, on press and on release, and
each command is sent where it is fired, one event for each action; and so are the events of function
keys, from whatever table they are made. -/
theorem events_wellFormed (t : Target) (l : Layers) :
    (∀ r ∈ t.rules l, ∀ m ∈ r.manipulators, ∀ event ∈ m.events, event.WellFormed) ∧
      (∀ slot command, l.CommandAt slot command →
        ∃ m, manipulatorAt? (t.rules l) slot = some m ∧ m.Sends command) ∧
      ∀ table rs, replacements table = .ok rs →
        ∀ r ∈ rs, ∀ event ∈ r.events, event.WellFormed := by
  refine ⟨fun r hr m hm => ?_, fun slot command h => exists_sends h,
    fun table rs h => wellFormed_replacements h⟩
  obtain ⟨slot, hslot⟩ := exists_slot hr hm
  exact (manipulatorAt?_rules_iff.mp hslot).wellFormed

/-- In a sublayer a shell command is run by a shell event, its toggle sends well-formed events, and
so does the media row. -/
theorem events_wellFormed_filesAndMusic :
    (∃ m, manipulatorAt? (Target.rules {} Layers.filesAndMusic) ⟨0, 1⟩ = some m ∧
        m.Sends ⟨[.shell "open -a Finder"], some "Finder"⟩) ∧
      (∀ event ∈ (Target.toggle {} (.ofLayers Layers.filesAndMusic) "o").events,
        event.WellFormed) ∧
      ∃ rs, replacements mediaRow = .ok rs ∧ ∀ r ∈ rs, ∀ event ∈ r.events, event.WellFormed := by
  obtain ⟨hrules, hsends, hkeys⟩ := events_wellFormed {} Layers.filesAndMusic
  refine ⟨hsends _ _ (.dispatch rfl rfl), ?_, _, rfl, hkeys mediaRow _ rfl⟩
  exact hrules _ List.mem_cons_self _ List.mem_cons_self

end Target

end KeyLayers
