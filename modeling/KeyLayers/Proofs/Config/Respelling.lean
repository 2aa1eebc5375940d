import KeyLayers.Output
import KeyLayers.Proofs.Chord
import KeyLayers.Proofs.Config.Reading

/-!
# Spelling does not matter

Blanks around the name of a key or a modifier, and capitals in it, make no
difference to what a configuration compiles to, wherever the name stands: at a
layer, at a binding, on either side of an alias or of a remapped key, in an event
or between the separators of a chord.  Two configurations that differ in such
spellings only have the same output, or none of them has one.

Aliases and names are brought to canonical spelling before they are used, so
nearly everything is the same from there on.  Only the errors of chords show the
text as it was written; hence the outcomes are compared up to the error.

## Main definitions

* `SameOutcome` — two attempts that both fail or give the same.
* `Aliases.Respelled`, `Config.Respelled` — the same in another spelling.

## Main results

* `Vocabulary.ofConfig_respelled` — the aliases mean the same.
* `Vocabulary.sameOutcome_keyed` — both loops over keyed lists.
* `Config.build_respelled` — **other spellings have the same output.**
-/

namespace KeyLayers

/-! ### Outcomes -/

section Outcomes

variable {ε ε' α β : Type}

/-- Two attempts that both fail, for whatever reasons, or give the same. -/
inductive SameOutcome : Except ε α → Except ε α → Prop
  /-- Both give the same. -/
  | ok (a : α) : SameOutcome (.ok a) (.ok a)
  /-- Both fail. -/
  | error (e e' : ε) : SameOutcome (.error e) (.error e')

namespace SameOutcome

theorem refl (r : Except ε α) : SameOutcome r r := by
  cases r with
  | ok a => exact .ok a
  | error e => exact .error e e

theorem of_eq {r r' : Except ε α} (h : r = r') : SameOutcome r r' := h ▸ refl r

/-- Two attempts that give the same things have the same outcome. -/
theorem of_eq_ok_iff {r r' : Except ε α} (h : ∀ a, r = .ok a ↔ r' = .ok a) :
    SameOutcome r r' := by
  cases r with
  | ok a =>
    rw [(h a).mp rfl]
    exact .ok a
  | error e =>
    cases r' with
    | ok a => exact absurd ((h a).mpr rfl) nofun
    | error e' => exact .error e e'

theorem map {r r' : Except ε α} (h : SameOutcome r r') (f : α → β) :
    SameOutcome (r.map f) (r'.map f) := by
  cases h with
  | ok a => exact .ok (f a)
  | error e e' => exact .error e e'

theorem mapError {r r' : Except ε α} (h : SameOutcome r r') (f : ε → ε') :
    SameOutcome (r.mapError f) (r'.mapError f) := by
  cases h with
  | ok a => exact .ok a
  | error e e' => exact .error (f e) (f e')

theorem bind {r r' : Except ε α} (h : SameOutcome r r') {f f' : α → Except ε β}
    (hf : ∀ a, SameOutcome (f a) (f' a)) : SameOutcome (r.bind f) (r'.bind f') := by
  cases h with
  | ok a => exact hf a
  | error e e' => exact .error e e'

end SameOutcome

end Outcomes

/-! ### Other spellings -/

/-- Two texts with the same canonical spelling. -/
def SameSpelling (text text' : String) : Prop := canonical text = canonical text'

instance (text text' : String) : Decidable (SameSpelling text text') :=
  inferInstanceAs (Decidable (_ = _))

/-- The same aliases in the same order, each side in another spelling. -/
def Aliases.Respelled (a a' : Aliases) : Prop :=
  List.Forall₂ (fun e e' => SameSpelling e.1 e'.1 ∧ SameSpelling e.2 e'.2) a.entries a'.entries

namespace Config

/-- The same event, its key and modifiers in another spelling. -/
inductive Event.Respelled : Event → Event → Prop
  /-- A key with modifiers. -/
  | key {code code' : String} {modifiers modifiers' : List String}
      (sameCode : SameSpelling code code')
      (sameModifiers : List.Forall₂ SameSpelling modifiers modifiers') :
      Respelled (.key code modifiers) (.key code' modifiers')
  /-- A media key. -/
  | consumerKey (code : String) : Respelled (.consumerKey code) (.consumerKey code)
  /-- A key of one vendor. -/
  | vendorKey (code : String) : Respelled (.vendorKey code) (.vendorKey code)
  /-- A shell command. -/
  | shell (command : String) : Respelled (.shell command) (.shell command)

/-- The same effect, its keys and modifiers in another spelling. -/
inductive Effect.Respelled : Effect → Effect → Prop
  /-- An application. -/
  | app (name : String) : Respelled (.app name) (.app name)
  /-- A file or an address. -/
  | openTarget (target : String) : Respelled (.openTarget target) (.openTarget target)
  /-- A shell command. -/
  | shell (command : String) : Respelled (.shell command) (.shell command)
  /-- A chord of the same pieces. -/
  | emit {chord chord' : String} (samePieces : Chord.pieces '+' chord = Chord.pieces '+' chord') :
      Respelled (.emit chord) (.emit chord')
  /-- Events. -/
  | send {events events' : List Event} (each : List.Forall₂ Event.Respelled events events') :
      Respelled (.send events) (.send events')

/-- The same binding in another spelling.  Descriptions are no names. -/
structure Binding.Respelled (b b' : Binding) : Prop where
  effect : b.effect.Respelled b'.effect
  description : b.description = b'.description

/-- The same body in another spelling. -/
inductive Body.Respelled : Body → Body → Prop
  /-- A single binding. -/
  | command {binding binding' : Binding} (same : binding.Respelled binding') :
      Respelled (.command binding) (.command binding')
  /-- The bindings of a sublayer, in the same order. -/
  | commands {bindings bindings' : OrderedMap Binding}
      (each : List.Forall₂ (fun b b' => SameSpelling b.1 b'.1 ∧ Binding.Respelled b.2 b'.2)
        bindings.entries bindings'.entries) :
      Respelled (.commands bindings) (.commands bindings')

/-- The same layer in another spelling. -/
structure Layer.Respelled (layer layer' : Layer) : Prop where
  key : SameSpelling layer.key layer'.key
  body : layer.body.Respelled layer'.body

/-- The same configuration in another spelling: aliases, remapped keys and layers may be spelled
differently, and all else is equal. -/
structure Respelled (c c' : Config) : Prop where
  version : c.version = c'.version
  title : c.title = c'.title
  description : c.description = c'.description
  layout : c.layout = c'.layout
  hyper : c.hyper = c'.hyper
  functionKeys : c.functionKeys = c'.functionKeys
  keyAliases : c.aliases.key.Respelled c'.aliases.key
  modifierAliases : c.aliases.mod.Respelled c'.aliases.mod
  remap : Aliases.Respelled c.remap c'.remap
  layers : List.Forall₂ Layer.Respelled c.layers c'.layers

end Config

/-! ### What is read from them -/

/-- Aliases in another spelling have the same canonical form. -/
theorem Aliases.Respelled.canonical_eq {a a' : Aliases} (h : a.Respelled a') :
    a.canonical = a'.canonical := by
  have hentries : (a.entries.map fun e => (KeyLayers.canonical e.1, KeyLayers.canonical e.2)) =
      a'.entries.map fun e => (KeyLayers.canonical e.1, KeyLayers.canonical e.2) := by
    rw [← List.forall₂_eq_eq_eq, List.forall₂_map_left_iff, List.forall₂_map_right_iff]
    exact h.imp fun e e' he => Prod.ext he.1 he.2
  rw [canonical, canonical, hentries]

namespace Vocabulary

/-- The aliases mean the same. -/
theorem ofConfig_respelled {c c' : Config} (h : c.Respelled c') : ofConfig c = ofConfig c' := by
  rw [ofConfig, ofConfig, h.keyAliases.canonical_eq, h.modifierAliases.canonical_eq]

variable (w : Vocabulary)

theorem resolve_respelled (a : Aliases) {text text' : String} (h : SameSpelling text text') :
    KeyCode.resolve a text = KeyCode.resolve a text' := by
  have hsame : canonical text = canonical text' := h
  simp only [KeyCode.resolve, KeyCode.ofText, hsame]

theorem modifierList_respelled {texts texts' : List String}
    (h : List.Forall₂ SameSpelling texts texts') :
    w.modifierList texts = w.modifierList texts' := by
  induction h with
  | nil => rfl
  | cons hsame _ ih =>
    rw [modifierList, modifierList, ih, modifier, modifier, resolve_respelled _ hsame]

theorem action_respelled {event event' : Config.Event} (h : event.Respelled event') :
    w.action event = w.action event' := by
  cases h with
  | key sameCode sameModifiers =>
    rw [action, action, key, key, resolve_respelled _ sameCode,
      modifierList_respelled w sameModifiers]
  | consumerKey code => rfl
  | vendorKey code => rfl
  | shell command => rfl

theorem actions_respelled {events events' : List Config.Event}
    (h : List.Forall₂ Config.Event.Respelled events events') :
    w.actions events = w.actions events' := by
  induction h with
  | nil => rfl
  | cons hsame _ ih => rw [actions, actions, ih, action_respelled w hsame]

/-- Chords of the same pieces give the same key press, though their errors show them as they are
written. -/
theorem sameOutcome_effect {effect effect' : Config.Effect} (h : effect.Respelled effect') :
    SameOutcome (w.effect effect) (w.effect effect') := by
  cases h with
  | app name => exact .refl _
  | openTarget target => exact .refl _
  | shell command => exact .refl _
  | emit samePieces =>
    -- the errors differ, so the readings are compared by what they give
    refine SameOutcome.map (.of_eq_ok_iff fun press => ?_) _
    rw [KeyPress.ofChord_plus_eq_ok_iff, KeyPress.ofChord_plus_eq_ok_iff, samePieces]
  | send each => exact .of_eq (by rw [effect, effect, actions_respelled w each])

theorem sameOutcome_command {b b' : Config.Binding} (h : b.Respelled b') :
    SameOutcome (w.command b) (w.command b') := by
  rw [command, command, h.description]
  exact (sameOutcome_effect w h.effect).map _

/-- Both loops over keyed lists: corresponding elements come under the same keys and are read
alike. -/
theorem sameOutcome_keyed {α β : Type} {S : α → α → Prop} (name : α → String)
    (duplicate : KeyCode → ConfigError) (body : KeyCode → α → Except ConfigError β)
    {F : OrderedMap β → List α → Except ConfigError (OrderedMap β)}
    (hcons : ∀ m a as, F m (a :: as) = ((w.key (name a)).mapError .spelling).bind fun key =>
      if m.contains key then .error (duplicate key)
      else (body key a).bind fun b => F (m.insert key b) as)
    (hname : ∀ a a', S a a' → SameSpelling (name a) (name a'))
    (hbody : ∀ key a a', S a a' → SameOutcome (body key a) (body key a'))
    {as as' : List α} (h : List.Forall₂ S as as') (m : OrderedMap β) :
    SameOutcome (F m as) (F m as') := by
  -- up to any place both loops have made the same map, so they find the same keys taken
  induction h generalizing m with
  | nil => exact .refl _
  | @cons a a' as as' hsame _ ih =>
    have hkey : w.key (name a) = w.key (name a') := resolve_respelled _ (hname a a' hsame)
    rw [hcons, hcons, hkey]
    refine SameOutcome.bind (.refl _) fun key => ?_
    by_cases htaken : m.contains key
    · rw [if_pos htaken, if_pos htaken]
      exact .refl _
    · rw [if_neg htaken, if_neg htaken]
      exact (hbody key a a' hsame).bind fun b => ih (m.insert key b)

theorem sameOutcome_entry (key : KeyCode) {body body' : Config.Body} (h : body.Respelled body') :
    SameOutcome (w.entry key body) (w.entry key body') := by
  cases h with
  | command same => exact ((sameOutcome_command w same).mapError _).map _
  | commands each =>
    have hread := sameOutcome_keyed w Prod.fst (ConfigError.duplicateCommand · key)
      (fun _ b => (w.command b.2).mapError .spelling) (commands_cons w key)
      (fun _ _ hsame => hsame.1) (fun _ _ _ hsame => (sameOutcome_command w hsame.2).mapError _)
      each .empty
    exact hread.map _

end Vocabulary

namespace Config

variable {c c' : Config}

/-- Configurations in another spelling describe the same layers, or none. -/
theorem toLayers_respelled (h : c.Respelled c') : SameOutcome c.toLayers c'.toLayers := by
  have hread := Vocabulary.sameOutcome_keyed (Vocabulary.ofConfig c) Layer.key
    .duplicateLayer (fun key layer => (Vocabulary.ofConfig c).entry key layer.body)
    (Vocabulary.entries_cons (Vocabulary.ofConfig c)) (fun _ _ hsame => hsame.key)
    (fun key _ _ hsame => Vocabulary.sameOutcome_entry _ key hsame.body) h.layers .empty
  rw [toLayers, toLayers, ← Vocabulary.ofConfig_respelled h]
  exact hread.map _

theorem target_respelled (h : c.Respelled c') : c.target = c'.target := by
  rw [target, target, h.layout, h.hyper, h.remap.canonical_eq]

theorem output_respelled (h : c.Respelled c') (title : Option String) (rules : List Host.Rule)
    (format : Format) : c.output title rules format = c'.output title rules format := by
  cases format with
  | rules => rw [output, output, outputTitle, outputTitle, h.title, h.description]
  | profile => rw [output, output, outputFunctionKeys, outputFunctionKeys, h.functionKeys]

/-- **Other spellings have the same output.**  In any format and under any title, both
configurations have no output or both have the same. -/
theorem build_respelled (c c' : Config) (h : c.Respelled c') (format title : Option String) :
    SameOutcome (c.build format title) (c'.build format title) := by
  rw [build, build]
  cases format.bind Format.ofName? with
  | none => exact .refl _
  | some format =>
    have hlayers := toLayers_respelled h
    generalize c.toLayers = layers at hlayers
    generalize c'.toLayers = layers' at hlayers
    cases hlayers with
    | error e e' => exact .error _ _
    | ok layers =>
      rw [target_respelled h]
      cases c'.target with
      | error e => exact .refl _
      | ok target => exact .of_eq (by simp only [output_respelled h])

/-- Under Colemak, a sublayer behind an alias.  Of the two aliases that are spelled `cmd`, the later
one counts. -/
def colemakMusic : Config where
  layout := "colemak"
  aliases.key := ⟨[("music", "m")], by decide⟩
  aliases.mod := ⟨[("cmd", "option"), ("Cmd", "command")], by decide⟩
  remap := ⟨[("f6", "f7")], by decide⟩
  layers := [⟨"music", .commands ⟨
    [("p", ⟨.send [.consumerKey "play_or_pause", .key "f6" ["cmd", "shift"]], none⟩),
     ("n", ⟨.emit "cmd+right_arrow", some "Next"⟩)], by decide⟩⟩]

/-- The same in another spelling. -/
def colemakMusicLoud : Config where
  layout := "colemak"
  aliases.key := ⟨[(" MUSIC", "M ")], by decide⟩
  aliases.mod := ⟨[("CMD", "Option"), (" cmd ", "COMMAND")], by decide⟩
  remap := ⟨[("F6", " F7")], by decide⟩
  layers := [⟨"Music ", .commands ⟨
    [("P", ⟨.send [.consumerKey "play_or_pause", .key " F6" ["Cmd", "SHIFT "]], none⟩),
     (" N ", ⟨.emit " CMD + Right_Arrow ", some "Next"⟩)], by decide⟩⟩]

/-- Both spellings have an output, and it is the same. -/
theorem build_respelled_colemakMusic : ∃ o, colemakMusic.build (some "rules") none = .ok o ∧
    colemakMusicLoud.build (some "rules") none = .ok o := by
  have hevents : Effect.Respelled
      (.send [.consumerKey "play_or_pause", .key "f6" ["cmd", "shift"]])
      (.send [.consumerKey "play_or_pause", .key " F6" ["Cmd", "SHIFT "]]) :=
    .send (.cons (.consumerKey _) (.cons (.key (by decide +kernel)
      (.cons (by decide +kernel) (.cons (by decide +kernel) .nil))) .nil))
  have hchord : Effect.Respelled (.emit "cmd+right_arrow") (.emit " CMD + Right_Arrow ") :=
    .emit (by decide +kernel)
  have hrespelled : colemakMusic.Respelled colemakMusicLoud :=
    { version := rfl, title := rfl, description := rfl, layout := rfl, hyper := rfl
      functionKeys := rfl
      keyAliases := .cons ⟨by decide +kernel, by decide +kernel⟩ .nil
      modifierAliases := .cons ⟨by decide +kernel, by decide +kernel⟩
        (.cons ⟨by decide +kernel, by decide +kernel⟩ .nil)
      remap := .cons ⟨by decide +kernel, by decide +kernel⟩ .nil
      layers := .cons ⟨by decide +kernel, .commands
        (.cons ⟨by decide +kernel, ⟨hevents, rfl⟩⟩
          (.cons ⟨by decide +kernel, ⟨hchord, rfl⟩⟩ .nil))⟩ .nil }
  have hbuilds : (colemakMusic.build (some "rules") none).toOption.isSome := by decide +kernel
  have houtcome := build_respelled colemakMusic colemakMusicLoud hrespelled (some "rules") none
  generalize colemakMusic.build (some "rules") none = r at hbuilds houtcome
  generalize colemakMusicLoud.build (some "rules") none = r' at houtcome
  cases houtcome with
  | ok o => exact ⟨o, rfl, rfl⟩
  | error e e' => simp [Except.toOption] at hbuilds

end Config

end KeyLayers
