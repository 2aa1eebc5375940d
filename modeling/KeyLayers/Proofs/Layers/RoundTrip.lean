import KeyLayers.Layers.Basic
import KeyLayers.Proofs.Schema.RoundTrip

/-!
# Layers survive being written

Layers are written as a tree of records: the kinds of actions and of entries are
told apart by their `kind` fields, the commands of a sublayer and the entries of
root keys are mappings whose order counts, and the value of a variable is a
text, an integer or a truth value without anything that says which.  Reading the
tree gives the same layers again, in the full form and in the wire form.

The proof follows the types from the inside out, one lemma for each, and one
case in it for each kind.

## Main results

* `Action.restores`, `Command.restores`, `Entry.restores` — the parts of layers.
* `Layers.validate_toValue` — **written layers are read as what they were.**
-/

namespace KeyLayers

open Decoder

theorem Scalar.restores : Scalar.decoder.Restores Scalar.toValue where
  decode := Scalar.decoder_toValue
  isNull x := by cases x <;> rfl

namespace Action

variable (f : Form)

theorem decode_keyPress (p : KeyPress) :
    keyPressSchema.decode (toValue f (.keyPress p)) = .accepted p := by
  refine record_restored (by simp) fun es hes => ?_
  have hkind : Decoder.kind "key" es = .accepted () := (hes.holds "kind" _ rfl).kind
  have hcode : required "key_code" text es = .accepted p.keyCode :=
    restores_text.required (hes.holds "key_code" _ rfl)
  have hmodifiers : defaulted "modifiers" [] (tupleOf Modifier.decoder) es =
      .accepted p.modifiers :=
    (restores_tupleOf Modifier.restores).defaulted (hes.holds "modifiers" _ rfl)
  have htranslate : defaulted "translate" false boolean es = .accepted p.translate :=
    restores_boolean.defaulted (hes.holds "translate" _ rfl)
  simp [keyPressSchema, record, hkind, hcode, hmodifiers, htranslate]

/-- The kinds that carry nothing but a text are records of the same make. -/
theorem decode_textRecord {model tag field : String} (hfield : field ≠ "kind")
    (make : String → Action) (s : String) :
    record model (fun es => (fun _ s => make s) <$> Decoder.kind tag es <*> required field text es)
      (f.record [("kind", .text tag), (field, .text s)]) = .accepted (make s) := by
  refine record_restored (by simp [hfield.symm]) fun es hes => ?_
  have hkind : Decoder.kind tag es = .accepted () := (hes.holds "kind" _ rfl).kind
  have htext : required field text es = .accepted s :=
    restores_text.required (hes.holds field _ (by simp [Entries.find?_cons, hfield.symm]))
  simp [record, hkind, htext]

theorem decode_setVariable (name : String) (value : Scalar) :
    setVariableSchema.decode (toValue f (.setVariable name value)) =
      .accepted (.setVariable name value) := by
  refine record_restored (by simp) fun es hes => ?_
  have hkind : Decoder.kind "set_variable" es = .accepted () := (hes.holds "kind" _ rfl).kind
  have hname : required "name" text es = .accepted name :=
    restores_text.required (hes.holds "name" _ rfl)
  have hvalue : required "value" Scalar.decoder es = .accepted value :=
    Scalar.restores.required (hes.holds "value" _ rfl)
  simp [setVariableSchema, record, hkind, hname, hvalue]

/-- An action is restored with its kind: the tag that it is written with selects
the reader of that kind. -/
theorem restores : schema.decode.Restores (toValue f) where
  decode action := by
    cases action with
    | keyPress p =>
      refine tagged_restored (by simp) rfl rfl ?_
      exact congrArg (Verdict.map Action.keyPress) (decode_keyPress f p)
    | consumerKey code =>
      exact tagged_restored (by simp) rfl rfl (decode_textRecord f (by decide) .consumerKey code)
    | vendorKey code =>
      exact tagged_restored (by simp) rfl rfl (decode_textRecord f (by decide) .vendorKey code)
    | shell command =>
      exact tagged_restored (by simp) rfl rfl (decode_textRecord f (by decide) .shell command)
    | setVariable name value =>
      exact tagged_restored (by simp) rfl rfl (decode_setVariable f name value)
  isNull action := by cases action <;> exact isNull_record f _

end Action

theorem Command.restores (f : Form) : Command.schema.decode.Restores (Command.toValue f) where
  decode command := by
    refine record_restored (by simp) fun es hes => ?_
    have hactions : required "actions" (tupleOf Action.schema.decode) es =
        .accepted command.actions :=
      (restores_tupleOf (Action.restores f)).required (hes.holds "actions" _ rfl)
    have hdescription : defaulted "description" none (nullable text) es =
        .accepted command.description :=
      restores_text.nullable (hes.holds "description" _ rfl)
    simp [Command.schema, record, hactions, hdescription]
  isNull _ := isNull_record f _

namespace Entry

variable (f : Form)

theorem decode_leaf (command : Command) :
    leafSchema.decode (toValue f (.leaf command)) = .accepted (.leaf command) := by
  refine record_restored (by simp) fun es hes => ?_
  have hkind : Decoder.kind "leaf" es = .accepted () := (hes.holds "kind" _ rfl).kind
  have hcommand : required "command" Command.schema.decode es = .accepted command :=
    (Command.restores f).required (hes.holds "command" _ rfl)
  simp [leafSchema, record, hkind, hcommand]

theorem decode_sublayer (commands : OrderedMap Command) :
    sublayerSchema.decode (toValue f (.sublayer commands)) = .accepted (.sublayer commands) := by
  refine congrArg (Verdict.map Entry.sublayer) (record_restored (by simp) fun es hes => ?_)
  have hkind : Decoder.kind "sublayer" es = .accepted () := (hes.holds "kind" _ rfl).kind
  have hcommands : defaulted "commands" .empty (mappingOf Command.schema.decode) es =
      .accepted commands :=
    (restores_mappingOf (Command.restores f)).defaulted (hes.holds "commands" _ rfl)
  simp [commandsSchema, record, hkind, hcommands]

theorem restores : schema.decode.Restores (toValue f) where
  decode entry := by
    cases entry with
    | leaf command => exact tagged_restored (by simp) rfl rfl (decode_leaf f command)
    | sublayer commands => exact tagged_restored (by simp) rfl rfl (decode_sublayer f commands)
  isNull entry := by cases entry <;> exact isNull_record f _

end Entry

/-- **Written layers are read as what they were**, whether the fields that hold
nothing are written or dropped. -/
theorem Layers.validate_toValue (f : Form) (l : Layers) :
    Layers.schema.validate (l.toValue f) = .ok l := by
  have hdecode : Layers.schema.decode (l.toValue f) = .accepted l := by
    refine record_restored (by simp) fun es hes => ?_
    have hlayers : defaulted "layers" .empty (mappingOf Entry.schema.decode) es =
        .accepted l.entries :=
      (restores_mappingOf (Entry.restores f)).defaulted (hes.holds "layers" _ rfl)
    simp [Layers.schema, record, hlayers]
  rw [Schema.validate, hdecode]

end KeyLayers
