import KeyLayers.Config.Schema
import KeyLayers.Proofs.Schema.Acceptance

/-!
# The grammar of configurations

What a configuration may look like as a value tree, said from the top down
without its schema: which fields there are, what may stand at each of them, and
which of them exclude each other.  Three of the parts offer a choice.  A layer is
bound to a command or to a sublayer, a command does one of five things, and an
event is of one of four kinds.  What counts there is that a field holds
something, and this is neither that it is there, since it may hold null, nor that
there is something in it, since an empty text and an empty list are something.

The schema is another description of the same trees, and a complete one: it
accepts those of the grammar and no others.

## Main definitions

* `Config.IsEvent`, `Config.IsBinding`, `Config.IsLayer` — the parts that offer a choice.
* `Config.HeaderFields` — the fields that stand beside the layers.
* `Config.IsConfig` — the whole.

## Main results

* `Config.Binding.exists_ofFields_iff`, … — which fields keep the rules that join them.
* `Config.fits_event_iff`, `Config.fits_binding_iff`, `Config.fits_layer_iff` — the parts.
* `Config.validate_grammar` — **the schema accepts exactly the grammar.**
-/

namespace KeyLayers.Config

open Decoder

/-! ### The grammar -/

/-- The fields of which an event has one. -/
def eventKinds : List String :=
  ["key_code", "consumer_key_code", "apple_vendor_keyboard_key_code", "shell_command"]

/-- The fields of which a binding has one. -/
def effectKinds : List String := ["app", "open", "shell", "emit", "to"]

/-- The fields of which a layer has one. -/
def bodyKinds : List String := ["command", "commands"]

/-- The fields of an event. -/
structure EventFields (es : Entries Value) : Prop where
  /-- Each kind of event is described by a text. -/
  texts : ∀ name ∈ eventKinds, IfThere (OrNull IsText) es name
  /-- The modifiers are texts; they may be missing, but not null. -/
  modifiers : IfThere (IsListOf IsText) es "modifiers"
  /-- An event is of one kind. -/
  one : GivesOne es eventKinds
  /-- Only a key has modifiers. -/
  modifiersOfKey : ∀ modifier modifiers,
    Entries.find? "modifiers" es = some (.list (modifier :: modifiers)) → Gives es "key_code"

/-- An event has no other fields. -/
def IsEvent : Value → Prop :=
  IsRecord fun es => (∀ e ∈ es, e.1 ∈ "modifiers" :: eventKinds) ∧ EventFields es

/-- The fields of a binding. -/
structure BindingFields (es : Entries Value) : Prop where
  /-- All but one of the things that a key can do are described by a text, and so is the whole. -/
  texts : ∀ name ∈ ["app", "open", "shell", "emit", "description"],
    IfThere (OrNull IsText) es name
  /-- The other one is described by events. -/
  events : IfThere (OrNull (IsListOf IsEvent)) es "to"
  /-- A key does one thing. -/
  one : GivesOne es effectKinds

/-- A binding has no other fields. -/
def IsBinding : Value → Prop :=
  IsRecord fun es => (∀ e ∈ es, e.1 ∈ "description" :: effectKinds) ∧ BindingFields es

/-- The fields of a layer. -/
structure LayerFields (es : Entries Value) : Prop where
  /-- The root key is a text. -/
  key : ∃ v, Entries.find? "key" es = some v ∧ IsText v
  /-- It may be bound to a command. -/
  command : IfThere (OrNull IsBinding) es "command"
  /-- It may be bound to a sublayer, whose keys are bound to commands. -/
  commands : IfThere (OrNull (IsMapOf IsBinding)) es "commands"
  /-- It is bound to one of them. -/
  one : GivesOne es bodyKinds

/-- A layer has no other fields. -/
def IsLayer : Value → Prop :=
  IsRecord fun es => (∀ e ∈ es, e.1 ∈ "key" :: bodyKinds) ∧ LayerFields es

/-- The fields beside the layers. -/
structure HeaderFields (es : Entries Value) : Prop where
  /-- The version is an integer, or can be read as one. -/
  version : IfThere (OrNull fun v => (integer v).Fits) es "version"
  /-- The title is a text. -/
  title : IfThere (OrNull IsText) es "title"
  /-- The description is a text. -/
  description : IfThere (OrNull IsText) es "description"
  /-- The name of the layout is a text. -/
  layout : IfThere IsText es "layout"
  /-- The hyper chord is a list of modifiers, under their names. -/
  hyper : IfThere (IsListOf fun v => ∃ m : Modifier, v = .text m.name) es "hyper"
  /-- Whether there are function keys is a truth value, or can be read as one. -/
  functionKeys : IfThere (fun v => (boolean v).Fits) es "fn_function_keys"
  /-- The tables of aliases map texts to texts. -/
  aliases : IfThere (IsRecord fun tables =>
    IfThere (IsMapOf IsText) tables "key" ∧ IfThere (IsMapOf IsText) tables "mod") es "alias"
  /-- Keys are remapped to texts. -/
  remap : IfThere (IsMapOf IsText) es "remap"

/-- A configuration is a mapping with these fields and a list of layers, and maybe others. -/
def IsConfig : Value → Prop :=
  IsRecord fun es => HeaderFields es ∧ IfThere (IsListOf IsLayer) es "layer"

/-! ### Rules that join fields -/

/-- The fields of an event keep the rules if it is of one kind, and if only a key has modifiers. -/
theorem Event.exists_ofFields_iff {keyCode consumer vendor shell : Option String}
    {modifiers : List String} :
    (∃ event, Event.ofFields keyCode modifiers consumer vendor shell = .ok event) ↔
      [keyCode.isSome, consumer.isSome, vendor.isSome, shell.isSome].count true = 1 ∧
        (modifiers ≠ [] → keyCode.isSome = true) := by
  cases keyCode <;> cases consumer <;> cases vendor <;> cases shell <;> cases modifiers <;>
    simp [Event.ofFields]

/-- The fields of a binding keep the rule if it does one thing. -/
theorem Binding.exists_ofFields_iff {app openTarget shell emit description : Option String}
    {events : Option (List Event)} :
    (∃ binding, Binding.ofFields app openTarget shell emit events description = .ok binding) ↔
      [app.isSome, openTarget.isSome, shell.isSome, emit.isSome, events.isSome].count true = 1 := by
  cases app <;> cases openTarget <;> cases shell <;> cases emit <;> cases events <;>
    simp [Binding.ofFields]

/-- The fields of a layer keep the rule if it is bound to one thing. -/
theorem Layer.exists_ofFields_iff {key : String} {command : Option Binding}
    {commands : Option (OrderedMap Binding)} :
    (∃ layer, Layer.ofFields key command commands = .ok layer) ↔
      [command.isSome, commands.isSome].count true = 1 := by
  cases command <;> cases commands <;> simp [Layer.ofFields]

/-! ### Parts -/

section Parts

variable {es : Entries Value}

theorem fits_optionalText_iff (es : Entries Value) (name : String) :
    (defaulted name none (nullable text) es).Fits ↔ IfThere (OrNull IsText) es name :=
  fits_defaulted_iff fun _ => fits_nullable_iff fun _ => fits_text_iff

/-- The rules for events, in terms of what stands at the fields. -/
theorem Event.exists_ofFields_iff_gives {keyCode consumer vendor shell : Option String}
    {modifiers : List String}
    (hkeyCode : defaulted "key_code" none (nullable text) es = .accepted keyCode)
    (hmodifiers : defaulted "modifiers" [] (listOf text) es = .accepted modifiers)
    (hconsumer : defaulted "consumer_key_code" none (nullable text) es = .accepted consumer)
    (hvendor : defaulted "apple_vendor_keyboard_key_code" none (nullable text) es =
      .accepted vendor)
    (hshell : defaulted "shell_command" none (nullable text) es = .accepted shell) :
    (∃ event, Event.ofFields keyCode modifiers consumer vendor shell = .ok event) ↔
      GivesOne es eventKinds ∧ ∀ modifier modifiers,
        Entries.find? "modifiers" es = some (.list (modifier :: modifiers)) →
          Gives es "key_code" := by
  have hone : [keyCode.isSome, consumer.isSome, vendor.isSome, shell.isSome].count true = 1 ↔
      GivesOne es eventKinds :=
    count_eq_one_iff_givesOne (by decide)
      (.cons (isSome_iff_gives hkeyCode) (.cons (isSome_iff_gives hconsumer)
        (.cons (isSome_iff_gives hvendor) (.cons (isSome_iff_gives hshell) .nil))))
  rw [Event.exists_ofFields_iff, hone, ne_nil_iff_of_defaulted hmodifiers,
    isSome_iff_gives hkeyCode]
  simp only [exists_imp]

theorem eventFields_iff (es : Entries Value) :
    ((Event.ofFields
        <$> defaulted "key_code" none (nullable text) es
        <*> defaulted "modifiers" [] (listOf text) es
        <*> defaulted "consumer_key_code" none (nullable text) es
        <*> defaulted "apple_vendor_keyboard_key_code" none (nullable text) es
        <*> defaulted "shell_command" none (nullable text) es).Yields
          fun r => ∃ event, r = .ok event) ↔
      EventFields es := by
  have htexts : (∀ name ∈ eventKinds, IfThere (OrNull IsText) es name) ↔
      (defaulted "key_code" none (nullable text) es).Fits ∧
        (defaulted "consumer_key_code" none (nullable text) es).Fits ∧
        (defaulted "apple_vendor_keyboard_key_code" none (nullable text) es).Fits ∧
        (defaulted "shell_command" none (nullable text) es).Fits := by
    simp only [eventKinds, List.forall_mem_cons, fits_optionalText_iff, List.not_mem_nil,
      false_imp_iff, implies_true, and_true]
  have hlist : (defaulted "modifiers" [] (listOf text) es).Fits ↔
      IfThere (IsListOf IsText) es "modifiers" :=
    fits_defaulted_iff fun _ => fits_listOf_iff fun _ => fits_text_iff
  simp only [Verdict.seq_eq, Verdict.map_eq, Verdict.yields_apply_iff, Verdict.yields_map_iff]
  constructor
  · rintro ⟨_, hkeyCode, _, hmodifiers, _, hconsumer, _, hvendor, _, hshell, hevent⟩
    obtain ⟨hone, hof⟩ := (Event.exists_ofFields_iff_gives hkeyCode hmodifiers hconsumer hvendor
      hshell).mp hevent
    have htext := htexts.mpr ⟨⟨_, hkeyCode⟩, ⟨_, hconsumer⟩, ⟨_, hvendor⟩, ⟨_, hshell⟩⟩
    exact ⟨htext, hlist.mp ⟨_, hmodifiers⟩, hone, hof⟩
  · intro h
    obtain ⟨⟨keyCode, hkeyCode⟩, ⟨consumer, hconsumer⟩, ⟨vendor, hvendor⟩, ⟨shell, hshell⟩⟩ :=
      htexts.mp h.texts
    obtain ⟨modifiers, hmodifiers⟩ := hlist.mpr h.modifiers
    exact ⟨_, hkeyCode, _, hmodifiers, _, hconsumer, _, hvendor, _, hshell,
      (Event.exists_ofFields_iff_gives hkeyCode hmodifiers hconsumer hvendor hshell).mpr
        ⟨h.one, h.modifiersOfKey⟩⟩

theorem fits_event_iff {v : Value} : (Event.schema.decode v).Fits ↔ IsEvent v :=
  fits_closedRecord_iff (by decide) eventFields_iff

/-- The rule for bindings, in terms of what stands at the fields. -/
theorem Binding.exists_ofFields_iff_gives {app openTarget shell emit description : Option String}
    {events : Option (List Event)}
    (happ : defaulted "app" none (nullable text) es = .accepted app)
    (hopen : defaulted "open" none (nullable text) es = .accepted openTarget)
    (hshell : defaulted "shell" none (nullable text) es = .accepted shell)
    (hemit : defaulted "emit" none (nullable text) es = .accepted emit)
    (hevents : defaulted "to" none (nullable (listOf Event.schema.decode)) es =
      .accepted events) :
    (∃ binding, Binding.ofFields app openTarget shell emit events description = .ok binding) ↔
      GivesOne es effectKinds := by
  rw [Binding.exists_ofFields_iff]
  exact count_eq_one_iff_givesOne (by decide)
    (.cons (isSome_iff_gives happ) (.cons (isSome_iff_gives hopen)
      (.cons (isSome_iff_gives hshell) (.cons (isSome_iff_gives hemit)
        (.cons (isSome_iff_gives hevents) .nil)))))

theorem bindingFields_iff (es : Entries Value) :
    ((Binding.ofFields
        <$> defaulted "app" none (nullable text) es
        <*> defaulted "open" none (nullable text) es
        <*> defaulted "shell" none (nullable text) es
        <*> defaulted "emit" none (nullable text) es
        <*> defaulted "to" none (nullable (listOf Event.schema.decode)) es
        <*> defaulted "description" none (nullable text) es).Yields
          fun r => ∃ binding, r = .ok binding) ↔
      BindingFields es := by
  have htexts : (∀ name ∈ ["app", "open", "shell", "emit", "description"],
      IfThere (OrNull IsText) es name) ↔
      (defaulted "app" none (nullable text) es).Fits ∧
        (defaulted "open" none (nullable text) es).Fits ∧
        (defaulted "shell" none (nullable text) es).Fits ∧
        (defaulted "emit" none (nullable text) es).Fits ∧
        (defaulted "description" none (nullable text) es).Fits := by
    simp only [List.forall_mem_cons, fits_optionalText_iff, List.not_mem_nil, false_imp_iff,
      implies_true, and_true]
  have hlist : (defaulted "to" none (nullable (listOf Event.schema.decode)) es).Fits ↔
      IfThere (OrNull (IsListOf IsEvent)) es "to" :=
    fits_defaulted_iff fun _ => fits_nullable_iff fun _ => fits_listOf_iff fun _ => fits_event_iff
  simp only [Verdict.seq_eq, Verdict.map_eq, Verdict.yields_apply_iff, Verdict.yields_map_iff]
  constructor
  · rintro ⟨_, happ, _, hopen, _, hshell, _, hemit, _, hevents, _, hdescription, hbinding⟩
    have hone := (Binding.exists_ofFields_iff_gives happ hopen hshell hemit hevents).mp hbinding
    have htext := htexts.mpr
      ⟨⟨_, happ⟩, ⟨_, hopen⟩, ⟨_, hshell⟩, ⟨_, hemit⟩, ⟨_, hdescription⟩⟩
    exact ⟨htext, hlist.mp ⟨_, hevents⟩, hone⟩
  · intro h
    obtain ⟨⟨app, happ⟩, ⟨openTarget, hopen⟩, ⟨shell, hshell⟩, ⟨emit, hemit⟩,
      ⟨description, hdescription⟩⟩ := htexts.mp h.texts
    obtain ⟨events, hevents⟩ := hlist.mpr h.events
    exact ⟨_, happ, _, hopen, _, hshell, _, hemit, _, hevents, _, hdescription,
      (Binding.exists_ofFields_iff_gives happ hopen hshell hemit hevents).mpr h.one⟩

theorem fits_binding_iff {v : Value} : (Binding.schema.decode v).Fits ↔ IsBinding v :=
  fits_closedRecord_iff (by decide) bindingFields_iff

/-- The rule for layers, in terms of what stands at the fields. -/
theorem Layer.exists_ofFields_iff_gives {key : String} {command : Option Binding}
    {commands : Option (OrderedMap Binding)}
    (hcommand : defaulted "command" none (nullable Binding.schema.decode) es = .accepted command)
    (hcommands : defaulted "commands" none (nullable (mappingOf Binding.schema.decode)) es =
      .accepted commands) :
    (∃ layer, Layer.ofFields key command commands = .ok layer) ↔ GivesOne es bodyKinds := by
  rw [Layer.exists_ofFields_iff]
  exact count_eq_one_iff_givesOne (by decide)
    (.cons (isSome_iff_gives hcommand) (.cons (isSome_iff_gives hcommands) .nil))

theorem layerFields_iff (es : Entries Value) :
    ((Layer.ofFields
        <$> required "key" text es
        <*> defaulted "command" none (nullable Binding.schema.decode) es
        <*> defaulted "commands" none (nullable (mappingOf Binding.schema.decode)) es).Yields
          fun r => ∃ layer, r = .ok layer) ↔
      LayerFields es := by
  have hkeyText : (required "key" text es).Fits ↔
      ∃ v, Entries.find? "key" es = some v ∧ IsText v :=
    fits_required_iff fun _ => fits_text_iff
  have hbinding : (defaulted "command" none (nullable Binding.schema.decode) es).Fits ↔
      IfThere (OrNull IsBinding) es "command" :=
    fits_defaulted_iff fun _ => fits_nullable_iff fun _ => fits_binding_iff
  have hbindings :
      (defaulted "commands" none (nullable (mappingOf Binding.schema.decode)) es).Fits ↔
        IfThere (OrNull (IsMapOf IsBinding)) es "commands" :=
    fits_defaulted_iff fun _ => fits_nullable_iff fun _ => fits_mappingOf_iff fun _ =>
      fits_binding_iff
  simp only [Verdict.seq_eq, Verdict.map_eq, Verdict.yields_apply_iff, Verdict.yields_map_iff]
  constructor
  · rintro ⟨_, hkey, _, hcommand, _, hcommands, hlayer⟩
    have hone := (Layer.exists_ofFields_iff_gives hcommand hcommands).mp hlayer
    exact ⟨hkeyText.mp ⟨_, hkey⟩, hbinding.mp ⟨_, hcommand⟩, hbindings.mp ⟨_, hcommands⟩, hone⟩
  · intro h
    obtain ⟨key, hkey⟩ := hkeyText.mpr h.key
    obtain ⟨command, hcommand⟩ := hbinding.mpr h.command
    obtain ⟨commands, hcommands⟩ := hbindings.mpr h.commands
    exact ⟨_, hkey, _, hcommand, _, hcommands,
      (Layer.exists_ofFields_iff_gives hcommand hcommands).mpr h.one⟩

theorem fits_layer_iff {v : Value} : (Layer.schema.decode v).Fits ↔ IsLayer v :=
  fits_closedRecord_iff (.refl _) layerFields_iff

end Parts

/-! ### Configurations -/

theorem fits_modifier_iff {v : Value} :
    (Modifier.decoder v).Fits ↔ ∃ m : Modifier, v = .text m.name := by
  simp only [Modifier.decoder, fits_choice_iff, Modifier.mem_all, true_and]

theorem fits_aliasTables_iff {v : Value} : (AliasTables.schema.decode v).Fits ↔
    IsRecord (fun tables => IfThere (IsMapOf IsText) tables "key" ∧
      IfThere (IsMapOf IsText) tables "mod") v := by
  refine fits_record_iff fun tables => ?_
  have htable : ∀ name, (defaulted name .empty (mappingOf text) tables).Fits ↔
      IfThere (IsMapOf IsText) tables name :=
    fun name => fits_defaulted_iff fun _ => fits_mappingOf_iff fun _ => fits_text_iff
  simp only [Verdict.map_eq, Verdict.seq_eq, Verdict.fits_apply_iff, Verdict.fits_map_iff, htable]

theorem fits_config_iff {v : Value} : (Config.schema.decode v).Fits ↔ IsConfig v := by
  refine fits_record_iff fun es => ?_
  have hmap : ∀ name, (defaulted name .empty (mappingOf text) es).Fits ↔
      IfThere (IsMapOf IsText) es name :=
    fun name => fits_defaulted_iff fun _ => fits_mappingOf_iff fun _ => fits_text_iff
  have hversion : (defaulted "version" none (nullable integer) es).Fits ↔
      IfThere (OrNull fun v => (integer v).Fits) es "version" :=
    fits_defaulted_iff fun _ => fits_nullable_iff fun _ => Iff.rfl
  have hlayout : (defaulted "layout" "qwerty" text es).Fits ↔ IfThere IsText es "layout" :=
    fits_defaulted_iff fun _ => fits_text_iff
  have hhyper : (defaulted "hyper" hyperChord (listOf Modifier.decoder) es).Fits ↔
      IfThere (IsListOf fun v => ∃ m : Modifier, v = .text m.name) es "hyper" :=
    fits_defaulted_iff fun _ => fits_listOf_iff fun _ => fits_modifier_iff
  have hfunctionKeys : (defaulted "fn_function_keys" false boolean es).Fits ↔
      IfThere (fun v => (boolean v).Fits) es "fn_function_keys" :=
    fits_defaulted_iff fun _ => Iff.rfl
  have haliases : (defaulted "alias" {} AliasTables.schema.decode es).Fits ↔
      IfThere (IsRecord fun tables => IfThere (IsMapOf IsText) tables "key" ∧
        IfThere (IsMapOf IsText) tables "mod") es "alias" :=
    fits_defaulted_iff fun _ => fits_aliasTables_iff
  have hlayers : (defaulted "layer" [] (listOf Layer.schema.decode) es).Fits ↔
      IfThere (IsListOf IsLayer) es "layer" :=
    fits_defaulted_iff fun _ => fits_listOf_iff fun _ => fits_layer_iff
  simp only [Verdict.map_eq, Verdict.seq_eq, Verdict.fits_apply_iff, Verdict.fits_map_iff, hversion,
    fits_optionalText_iff, hlayout, hhyper, hfunctionKeys, haliases, hmap, hlayers, and_assoc]
  constructor
  · rintro ⟨hv, ht, hd, hl, hh, hf, ha, hr, hlayer⟩
    exact ⟨⟨hv, ht, hd, hl, hh, hf, ha, hr⟩, hlayer⟩
  · rintro ⟨⟨hv, ht, hd, hl, hh, hf, ha, hr⟩, hlayer⟩
    exact ⟨hv, ht, hd, hl, hh, hf, ha, hr, hlayer⟩

/-- **The schema accepts exactly the grammar**: a value tree is a configuration if and only if it is
a mapping in which the fields beside the layers fit and the layers, if there are any, are a list of
what the grammar calls layers. -/
theorem validate_grammar (v : Value) :
    (∃ c, Config.schema.validate v = .ok c) ↔ IsConfig v := by
  rw [← fits_config_iff]
  unfold Schema.validate
  cases Config.schema.decode v with
  | accepted c => exact ⟨fun _ => ⟨c, rfl⟩, fun _ => ⟨c, rfl⟩⟩
  | refused issues =>
    constructor
    · rintro ⟨c, h⟩
      cases h
    · rintro ⟨c, h⟩
      cases h

end KeyLayers.Config
