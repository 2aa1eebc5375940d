import KeyLayers.Host.Schema
import KeyLayers.Host.Written
import KeyLayers.Proofs.Layers.RoundTrip

/-!
# The host's rules survive being written

Each part of the host's rules is a record, and for each there are two lemmas.
`decode_of_fields` says what the schema reads from any entries at whose fields
the part's values stand, so that it also serves entries that somebody else has
put together; `restores` is the case of the entries that the part itself is
written with.  The two forms differ in the name of the field that says what is
waited for, and the schema knows both names.

## Main results

* `Event.decode_of_fields`, `Manipulator.decode_of_fields`, … — reading the parts.
* `RuleFile.restores`, `Profile.restores` — **whole files are read as what they were.**
-/

namespace KeyLayers.Host

open Decoder

variable {f : Form} {es : Entries Value}

theorem Modifier.restores : Modifier.decoder.Restores Modifier.toValue := by
  refine restores_choice (fun m => ?_) fun m n h => ?_
  · cases m with
    | any => exact List.mem_cons_self
    | key m => exact List.mem_cons_of_mem _ (List.mem_map_of_mem m.mem_all)
  · cases m with
    | any =>
      cases n with
      | any => rfl
      | key n => cases n <;> exact absurd h (by decide)
    | key m =>
      cases n with
      | any => cases m <;> exact absurd h (by decide)
      | key n => rw [KeyLayers.Modifier.name_injective h]

theorem restores_modifiers : (listOf Modifier.decoder).Restores modifiersValue :=
  restores_listOf Modifier.restores

/-! ### What is waited for -/

theorem Condition.decode_of_fields {c : Condition}
    (htype : FieldHolds es "type" ConditionKind.variableIf.toValue)
    (hname : FieldHolds es "name" (.text c.name))
    (hvalue : FieldHolds es "value" c.value.toValue) :
    Condition.schema.decode (.map es) = .accepted c := by
  have htype' : defaulted "type" ()
      (literal ConditionKind.variableIf.name "<ConditionType.VARIABLE_IF: 'variable_if'>") es =
      .accepted () :=
    (restores_literal _ _).defaulted (a := ()) htype
  simp [Condition.schema, record, htype', restores_text.required hname,
    Scalar.restores.required hvalue]

theorem Condition.restores (f : Form) : Condition.schema.decode.Restores (toValue f) where
  decode c := record_restored (by simp) fun es hes =>
    decode_of_fields (hes.holds _ _ rfl) (hes.holds _ _ rfl) (hes.holds _ _ rfl)
  isNull _ := isNull_record f _

theorem TriggerModifiers.decode_of_fields {m : TriggerModifiers}
    (hmandatory : FieldHolds es "mandatory" (.ofOption modifiersValue m.mandatory))
    (hoptional : FieldHolds es "optional" (.ofOption modifiersValue m.optional)) :
    TriggerModifiers.schema.decode (.map es) = .accepted m := by
  simp [TriggerModifiers.schema, record, restores_modifiers.nullable hmandatory,
    restores_modifiers.nullable hoptional]

theorem TriggerModifiers.restores (f : Form) :
    TriggerModifiers.schema.decode.Restores (toValue f) where
  decode m := record_restored (by simp) fun es hes =>
    decode_of_fields (hes.holds _ _ rfl) (hes.holds _ _ rfl)
  isNull _ := isNull_record f _

theorem Trigger.decode_of_fields {t : Trigger}
    (hkeyCode : FieldHolds es "key_code" (.text t.keyCode))
    (hmodifiers : FieldHolds es "modifiers"
      (.ofOption (TriggerModifiers.toValue f) t.modifiers)) :
    Trigger.schema.decode (.map es) = .accepted t := by
  simp [Trigger.schema, record, restores_text.required hkeyCode,
    (TriggerModifiers.restores f).nullable hmodifiers]

theorem Trigger.restores (f : Form) : Trigger.schema.decode.Restores (toValue f) where
  decode t := record_restored (by simp) fun es hes =>
    decode_of_fields (hes.holds _ _ rfl) (hes.holds _ _ rfl)
  isNull _ := isNull_record f _

/-! ### What is sent -/

theorem Assignment.decode_of_fields {v : Assignment} (hname : FieldHolds es "name" (.text v.name))
    (hvalue : FieldHolds es "value" v.value.toValue) :
    Assignment.schema.decode (.map es) = .accepted v := by
  simp [Assignment.schema, record, restores_text.required hname, Scalar.restores.required hvalue]

theorem Assignment.restores (f : Form) : Assignment.schema.decode.Restores (toValue f) where
  decode v := record_restored (by simp) fun es hes =>
    decode_of_fields (hes.holds _ _ rfl) (hes.holds _ _ rfl)
  isNull _ := isNull_record f _

theorem Event.decode_of_fields {e : Event}
    (hkeyCode : FieldHolds es "key_code" (.ofOption .text e.keyCode))
    (hconsumer : FieldHolds es "consumer_key_code" (.ofOption .text e.consumerKeyCode))
    (hvendor : FieldHolds es "apple_vendor_keyboard_key_code" (.ofOption .text e.vendorKeyCode))
    (hshell : FieldHolds es "shell_command" (.ofOption .text e.shellCommand))
    (hassignment : FieldHolds es "set_variable" (.ofOption (Assignment.toValue f) e.assignment))
    (hmodifiers : FieldHolds es "modifiers" (.ofOption modifiersValue e.modifiers)) :
    Event.schema.decode (.map es) = .accepted e := by
  simp [Event.schema, record, restores_text.nullable hkeyCode, restores_text.nullable hconsumer,
    restores_text.nullable hvendor, restores_text.nullable hshell,
    (Assignment.restores f).nullable hassignment, restores_modifiers.nullable hmodifiers]

theorem Event.restores (f : Form) : Event.schema.decode.Restores (toValue f) where
  decode e := record_restored (by simp) fun es hes =>
    decode_of_fields (hes.holds _ _ rfl) (hes.holds _ _ rfl) (hes.holds _ _ rfl)
      (hes.holds _ _ rfl) (hes.holds _ _ rfl) (hes.holds _ _ rfl)
  isNull _ := isNull_record f _

theorem restores_events (f : Form) : (listOf Event.schema.decode).Restores (eventsValue f) :=
  restores_listOf (Event.restores f)

/-! ### Manipulators and replacements -/

/-- What is waited for is read under its first name. -/
theorem triggerField_of_from {t : Trigger} (h : FieldHolds es "from" (t.toValue f)) :
    triggerField es = .accepted t := by
  have hfind := (Trigger.restores f).find? h
  simp [triggerField, requiredEither, hfind, (Trigger.restores f).required h]

/-- It is read under its second name where there is no first. -/
theorem triggerField_of_from_ {t : Trigger} (hnone : Entries.find? "from" es = none)
    (h : FieldHolds es "from_" (t.toValue f)) : triggerField es = .accepted t := by
  have hfind := (Trigger.restores f).find? h
  simp [triggerField, requiredEither, hnone, hfind, (Trigger.restores f).decode]

theorem Manipulator.decode_of_fields {m : Manipulator}
    (htype : defaulted "type" "basic" text es = .accepted m.type)
    (hdescription : FieldHolds es "description" (.ofOption .text m.description))
    (hconditions : defaulted "conditions" [] (listOf Condition.schema.decode) es =
      .accepted m.conditions)
    (htrigger : triggerField es = .accepted m.trigger)
    (honPress : FieldHolds es "to" (.ofOption (eventsValue f) m.onPress))
    (honRelease : FieldHolds es "to_after_key_up" (.ofOption (eventsValue f) m.onRelease)) :
    Manipulator.schema.decode (.map es) = .accepted m := by
  have honPress' : defaulted "to" none events es = .accepted m.onPress :=
    (restores_events f).nullable honPress
  have honRelease' : defaulted "to_after_key_up" none events es = .accepted m.onRelease :=
    (restores_events f).nullable honRelease
  simp [Manipulator.schema, record, htype, restores_text.nullable hdescription, hconditions,
    htrigger, honPress', honRelease']

theorem Manipulator.restores (f : Form) : Manipulator.schema.decode.Restores (toValue f) where
  decode m := by
    refine record_restored (by cases f <;> simp [triggerName]) fun es hes => ?_
    have htype : defaulted "type" "basic" text es = .accepted m.type :=
      restores_text.defaulted (hes.holds "type" _ rfl)
    have hconditions : defaulted "conditions" [] (listOf Condition.schema.decode) es =
        .accepted m.conditions :=
      (restores_listOf (Condition.restores f)).defaulted (hes.holds "conditions" _ rfl)
    have htrigger : triggerField es = .accepted m.trigger := by
      cases f with
      | full => exact triggerField_of_from_ (hes.other "from" rfl) (hes.holds "from_" _ rfl)
      | wire => exact triggerField_of_from (hes.holds "from" _ rfl)
    have honPress : FieldHolds es "to" (.ofOption (eventsValue f) m.onPress) :=
      hes.holds "to" _ (by cases f <;> rfl)
    have honRelease : FieldHolds es "to_after_key_up" (.ofOption (eventsValue f) m.onRelease) :=
      hes.holds "to_after_key_up" _ (by cases f <;> rfl)
    exact decode_of_fields htype (hes.holds "description" _ rfl) hconditions htrigger honPress
      honRelease
  isNull _ := isNull_record f _

theorem Replacement.decode_of_fields {r : Replacement}
    (htrigger : triggerField es = .accepted r.trigger)
    (hevents : FieldHolds es "to" (eventsValue f r.events)) :
    Replacement.schema.decode (.map es) = .accepted r := by
  simp [Replacement.schema, record, htrigger, (restores_events f).required hevents]

theorem Replacement.restores (f : Form) : Replacement.schema.decode.Restores (toValue f) where
  decode r := by
    refine record_restored (by cases f <;> simp [triggerName]) fun es hes => ?_
    cases f with
    | full =>
      exact decode_of_fields
        (triggerField_of_from_ (hes.other "from" rfl) (hes.holds "from_" _ rfl))
        (hes.holds "to" _ rfl)
    | wire =>
      exact decode_of_fields (triggerField_of_from (hes.holds "from" _ rfl))
        (hes.holds "to" _ rfl)
  isNull _ := isNull_record f _

/-! ### Rules and files -/

theorem Rule.decode_of_fields {r : Rule}
    (hdescription : FieldHolds es "description" (.text r.description))
    (hmanipulators : FieldHolds es "manipulators"
      (.list (r.manipulators.map (Manipulator.toValue f)))) :
    Rule.schema.decode (.map es) = .accepted r := by
  simp [Rule.schema, record, restores_text.required hdescription,
    (restores_listOf (Manipulator.restores f)).required hmanipulators]

theorem Rule.restores (f : Form) : Rule.schema.decode.Restores (toValue f) where
  decode r := record_restored (by simp) fun es hes =>
    decode_of_fields (hes.holds _ _ rfl) (hes.holds _ _ rfl)
  isNull _ := isNull_record f _

theorem restores_rules (f : Form) : (listOf Rule.schema.decode).Restores (rulesValue f) :=
  restores_listOf (Rule.restores f)

theorem RuleFile.decode_of_fields {s : RuleFile} (htitle : FieldHolds es "title" (.text s.title))
    (hrules : FieldHolds es "rules" (rulesValue f s.rules)) :
    RuleFile.schema.decode (.map es) = .accepted s := by
  simp [RuleFile.schema, record, restores_text.required htitle, (restores_rules f).required hrules]

theorem RuleFile.restores (f : Form) : RuleFile.schema.decode.Restores (toValue f) where
  decode s := record_restored (by simp) fun es hes =>
    decode_of_fields (hes.holds _ _ rfl) (hes.holds _ _ rfl)
  isNull _ := isNull_record f _

theorem RuleBlock.decode_of_fields {b : RuleBlock}
    (hrules : FieldHolds es "rules" (rulesValue f b.rules)) :
    RuleBlock.schema.decode (.map es) = .accepted b := by
  simp [RuleBlock.schema, record, (restores_rules f).defaulted hrules]

theorem RuleBlock.restores (f : Form) : RuleBlock.schema.decode.Restores (toValue f) where
  decode b := record_restored (by simp) fun es hes => decode_of_fields (hes.holds _ _ rfl)
  isNull _ := isNull_record f _

theorem Profile.decode_of_fields {p : Profile}
    (hblock : FieldHolds es "complex_modifications" (p.block.toValue f))
    (hkeys : FieldHolds es "fn_function_keys"
      (.list (p.functionKeys.map (Replacement.toValue f)))) :
    Profile.schema.decode (.map es) = .accepted p := by
  simp [Profile.schema, record, (RuleBlock.restores f).defaulted hblock,
    (restores_listOf (Replacement.restores f)).defaulted hkeys]

theorem Profile.restores (f : Form) : Profile.schema.decode.Restores (toValue f) where
  decode p := record_restored (by simp) fun es hes =>
    decode_of_fields (hes.holds _ _ rfl) (hes.holds _ _ rfl)
  isNull _ := isNull_record f _

end KeyLayers.Host
