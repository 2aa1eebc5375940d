import Mathlib.Data.List.Forall2
import KeyLayers.MediaRow
import KeyLayers.Target

/-!
# Function keys and rules

An action is made an event in two places: for the rules, and for the function
keys.  The two places do not agree.  A function key sends what a rule would send
for the same action, but without its modifiers, so a function key for a capital
letter gives the small one.  This is all that is lost: an action without
modifiers has the same event in both places, and the actions that press no key
are refused, the first of them by name.

## Main definitions

* `Action.isKey`, `Action.modifiers` — whether an action presses a key, and with what.
* `Replaces` — a replacement sends the event of a rule without its modifiers.

## Main results

* `keyEvent_of_isKey` — the event of a function key.
* `replacementsOf_eq_ok`, `replacementsOf_eq_error` — tables of keys, and tables with another
  action.
* `replacements_lowering` — **how function keys and rules send the same actions.**
* `replacements_shiftedRow` — a table on which they differ.
-/

namespace KeyLayers

open Host

/-! ### Single actions -/

/-- Whether an action presses a key of any kind. -/
def Action.isKey : Action → Bool
  | .keyPress _ => true
  | .consumerKey _ => true
  | .vendorKey _ => true
  | .shell _ => false
  | .setVariable .. => false

/-- The modifiers of an action. -/
def Action.modifiers : Action → List KeyLayers.Modifier
  | .keyPress press => press.modifiers
  | _ => []

/-- The event without its modifiers. -/
def Host.Event.withoutModifiers (event : Event) : Event := { event with modifiers := none }

/-- A function key sends the event of a rule without its modifiers. -/
theorem keyEvent_of_isKey {action : Action} (h : action.isKey) (keyCode : String) :
    keyEvent keyCode action = .ok (Target.event {} action).withoutModifiers := by
  cases action with
  | keyPress press =>
    -- without a layout it makes no difference whether a key press asks for one
    have hkey : (if press.translate then Translation.identity.apply press.keyCode
        else press.keyCode) = press.keyCode := by
      rw [Translation.apply_identity, ite_self]
    rw [keyEvent, Target.event, hkey]
    rfl
  | consumerKey code => rfl
  | vendorKey code => rfl
  | shell command => cases h
  | setVariable name value => cases h

theorem keyEvent_of_not_isKey {action : Action} (h : ¬ action.isKey) (keyCode : String) :
    keyEvent keyCode action = .error ⟨keyCode, action⟩ := by
  cases action with
  | keyPress press => exact absurd rfl h
  | consumerKey code => exact absurd rfl h
  | vendorKey code => exact absurd rfl h
  | shell command => rfl
  | setVariable name value => rfl

/-- Nothing is lost if there are no modifiers, and only then. -/
theorem withoutModifiers_event_eq_iff (t : Target) (action : Action) :
    (t.event action).withoutModifiers = t.event action ↔ action.modifiers = [] := by
  cases action with
  | keyPress press =>
    obtain ⟨keyCode, modifiers, translate⟩ := press
    cases modifiers with
    | nil => exact ⟨fun _ => rfl, fun _ => rfl⟩
    | cons m ms =>
      refine ⟨fun h => ?_, fun h => ?_⟩
      · have hmodifiers := congrArg Event.modifiers h
        cases hmodifiers
      · cases h
  | consumerKey code => exact ⟨fun _ => rfl, fun _ => rfl⟩
  | vendorKey code => exact ⟨fun _ => rfl, fun _ => rfl⟩
  | shell command => exact ⟨fun _ => rfl, fun _ => rfl⟩
  | setVariable name value => exact ⟨fun _ => rfl, fun _ => rfl⟩

/-! ### Tables -/

/-- What a function key with an action is replaced by. -/
structure Replaces (entry : String × Action) (r : Replacement) : Prop where
  /-- The function key alone is waited for. -/
  trigger : r.trigger = ⟨entry.1, none⟩
  /-- One event is sent. -/
  events : r.events = [(Target.event {} entry.2).withoutModifiers]
  /-- It is that of a rule if the action has no modifiers, and only then. -/
  sameEvent_iff : r.events = [Target.event {} entry.2] ↔ entry.2.modifiers = []

theorem replaces_withoutModifiers (entry : String × Action) :
    Replaces entry ⟨⟨entry.1, none⟩, [(Target.event {} entry.2).withoutModifiers]⟩ where
  trigger := rfl
  events := rfl
  sameEvent_iff := by
    rw [List.singleton_inj]
    exact withoutModifiers_event_eq_iff {} entry.2

/-- A table of keys has a replacement for each entry, in order. -/
theorem replacementsOf_eq_ok {es : Entries Action} (h : ∀ e ∈ es, e.2.isKey) :
    ∃ rs, replacementsOf es = .ok rs ∧ List.Forall₂ Replaces es rs := by
  induction es with
  | nil => exact ⟨[], rfl, .nil⟩
  | cons e es ih =>
    obtain ⟨rs, hrs, hreplaces⟩ := ih fun e' he' => h e' (List.mem_cons_of_mem _ he')
    have hevent := keyEvent_of_isKey (h e List.mem_cons_self) e.1
    refine ⟨⟨⟨e.1, none⟩, [(Target.event {} e.2).withoutModifiers]⟩ :: rs, ?_, ?_⟩
    · simp only [replacementsOf, hevent, hrs]
      rfl
    · exact .cons (replaces_withoutModifiers e) hreplaces

/-- The first action that presses no key is refused, whatever comes behind it. -/
theorem replacementsOf_eq_error {before after : Entries Action} {keyCode : String}
    {action : Action} (hbefore : ∀ e ∈ before, e.2.isKey) (haction : ¬ action.isKey) :
    replacementsOf (before ++ (keyCode, action) :: after) = .error ⟨keyCode, action⟩ := by
  induction before with
  | nil =>
    have herror := keyEvent_of_not_isKey haction keyCode
    simp only [List.nil_append, replacementsOf, herror]
  | cons e before ih =>
    have hevent := keyEvent_of_isKey (hbefore e List.mem_cons_self) e.1
    have hrest := ih fun e' he' => hbefore e' (List.mem_cons_of_mem _ he')
    simp only [List.cons_append, replacementsOf, hevent, hrest]
    rfl

/-- A table with an action that presses no key has a first one. -/
theorem exists_first_not_isKey {es : Entries Action} (h : ¬ ∀ e ∈ es, e.2.isKey) :
    ∃ before keyCode action after, es = before ++ (keyCode, action) :: after ∧
      (∀ e ∈ before, e.2.isKey) ∧ ¬ action.isKey := by
  induction es with
  | nil => exact absurd (List.forall_mem_nil _) h
  | cons e es ih =>
    obtain ⟨keyCode, action⟩ := e
    by_cases haction : action.isKey
    · have hrest : ¬ ∀ e ∈ es, e.2.isKey :=
        fun hall => h (List.forall_mem_cons.mpr ⟨haction, hall⟩)
      obtain ⟨before, key, other, after, rfl, hbefore, hother⟩ := ih hrest
      exact ⟨(keyCode, action) :: before, key, other, after, rfl,
        List.forall_mem_cons.mpr ⟨haction, hbefore⟩, hother⟩
    · exact ⟨[], keyCode, action, es, rfl, List.forall_mem_nil _, haction⟩

/-- The refusal names the function key and the kind of its action. -/
theorem NoKeyAction.message_eq (keyCode : String) (action : Action) :
    (NoKeyAction.mk keyCode action).message =
      "function key " ++ Text.quoted keyCode ++ " must emit a key, got: " ++ action.kindName := rfl

/-- **How function keys and rules send the same actions.**  A table of keys has one replacement for
each entry, in order, which waits for the function key alone and sends what a rule would send, but
without modifiers; so the two agree on an action exactly if it has none.  Any other table is refused
with its first action that presses no key, and the refusal names that key. -/
theorem replacements_lowering (table : OrderedMap Action) :
    ((∀ e ∈ table.entries, e.2.isKey) →
      ∃ rs, replacements table = .ok rs ∧ List.Forall₂ Replaces table.entries rs) ∧
    ((¬ ∀ e ∈ table.entries, e.2.isKey) →
      ∃ before keyCode action after refusal,
        table.entries = before ++ (keyCode, action) :: after ∧
        (∀ e ∈ before, e.2.isKey) ∧ ¬ action.isKey ∧
        replacements table = .error refusal ∧ refusal = ⟨keyCode, action⟩ ∧
        refusal.message = "function key " ++ Text.quoted keyCode ++ " must emit a key, got: " ++
          action.kindName) := by
  refine ⟨fun h => replacementsOf_eq_ok h, fun h => ?_⟩
  obtain ⟨before, keyCode, action, after, hes, hbefore, haction⟩ := exists_first_not_isKey h
  have hrefused : replacements table = .error ⟨keyCode, action⟩ := by
    rw [replacements, hes, replacementsOf_eq_error hbefore haction]
  exact ⟨before, keyCode, action, after, _, hes, hbefore, haction, hrefused, rfl,
    NoKeyAction.message_eq keyCode action⟩

/-- A function key for a media key, and one for a capital letter. -/
def shiftedRow : OrderedMap Action where
  entries := [("f1", .consumerKey "mute"), ("f2", .keyPress ⟨"a", [.leftShift], false⟩)]
  nodup := by decide

/-- The same row with a shell command between the two. -/
def shellRow : OrderedMap Action where
  entries :=
    [("f1", .consumerKey "mute"), ("f3", .shell "say hi"),
     ("f2", .keyPress ⟨"a", [.leftShift], false⟩)]
  nodup := by decide

/-- The first row is replaced key by key, and the shell command of the second one is refused. -/
theorem replacements_lowering_shiftedRow :
    (∃ rs, replacements shiftedRow = .ok rs ∧ List.Forall₂ Replaces shiftedRow.entries rs) ∧
      ∃ refusal, replacements shellRow = .error refusal ∧ refusal.keyCode = "f3" := by
  refine ⟨(replacements_lowering shiftedRow).1 (by decide), ?_⟩
  obtain ⟨-, -, -, -, refusal, -, -, -, hrefused, -, -⟩ :=
    (replacements_lowering shellRow).2 (by decide)
  have hshell : replacements shellRow = .error ⟨"f3", .shell "say hi"⟩ := rfl
  obtain rfl := Except.error.inj (hshell.symm.trans hrefused)
  exact ⟨_, hrefused, rfl⟩

/-- The row has keys only, and yet its function keys do not send what rules send. -/
theorem replacements_shiftedRow :
    (∀ e ∈ shiftedRow.entries, e.2.isKey) ∧
      ¬ ∃ rs, replacements shiftedRow = .ok rs ∧
        List.Forall₂ (fun e r => r.trigger = ⟨e.1, none⟩ ∧ r.events = [Target.event {} e.2])
          shiftedRow.entries rs := by
  refine ⟨by decide, ?_⟩
  rintro ⟨rs, hrs, hsame⟩
  have hrow : replacements shiftedRow =
      .ok [⟨⟨"f1", none⟩, [{ consumerKeyCode := some "mute" }]⟩,
        ⟨⟨"f2", none⟩, [{ keyCode := some "a" }]⟩] := rfl
  obtain rfl := Except.ok.inj (hrow.symm.trans hrs)
  have hevents : ([{ keyCode := some "a" }] : List Event) =
      [Target.event {} (.keyPress ⟨"a", [.leftShift], false⟩)] := by
    cases hsame with
    | cons _ hrest =>
      cases hrest with
      | cons hshifted _ => exact hshifted.2
  exact absurd hevents (by decide)

end KeyLayers
