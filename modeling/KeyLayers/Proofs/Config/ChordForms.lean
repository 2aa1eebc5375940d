import KeyLayers.Proofs.Chord
import KeyLayers.Proofs.Config.Reading

/-!
# Two ways to write a chord

A binding can send a chord, written as one text, or an event that lists the key
and its modifiers in fields of their own.  The two are read by different means:
the parts of a chord go through both tables of aliases and are told apart only
afterwards, while each field goes through its own table.  As long as no text
means something in the other table, both give the same key press, except that a
chord counts a repeated modifier once.

## Main definitions

* `Config.Illegible` — a text is blank, or should be a modifier and is none.
* `Config.ChordSafe` — texts that the tables of aliases cannot mix up.

## Main results

* `Config.ChordSafe.ofChord_eq_ok` — the key press of a chord that is put together from texts.
* `Config.command_chord_forms` — **both forms are read alike.**
-/

namespace KeyLayers

/-- A name that is no alias stands for itself. -/
theorem Aliases.resolve_of_notMem {a : Aliases} {name : String} (h : name ∉ a.keys) :
    a.resolve name = name := by
  have hnone : a.find? name = none := Entries.find?_eq_none_iff.mpr h
  rw [resolve, hnone, Option.getD_none]

namespace Config

variable {c : Config} {key : String} {modifiers : List String}

/-- A text is blank, or one that should stand for a modifier does not. -/
def Illegible (c : Config) (key : String) (modifiers : List String) : Prop :=
  (∃ text ∈ modifiers ++ [key], IsBlank text) ∨ ∃ text ∈ modifiers, ¬ c.NamesModifier text

/-- A key and modifiers that mean the same in a chord and in fields of their own.  Nothing is asked
of the meaning of a blank text, which has none in either form. -/
structure ChordSafe (c : Config) (key : String) (modifiers : List String) : Prop where
  /-- The separator stands in no text. -/
  separated : ∀ text ∈ modifiers ++ [key], '+' ∉ text.toList
  /-- The key is no alias of a modifier. -/
  key_notModifierAlias : ¬ IsBlank key → canonical key ∉ c.aliases.mod.canonical.keys
  /-- It does not stand for a modifier either. -/
  key_notModifier : ¬ IsBlank key → ∀ m : Modifier, m.name ≠ c.keyOf key
  /-- What a modifier stands for is no alias of a key. -/
  modifier_notKeyAlias : ∀ text ∈ modifiers, ¬ IsBlank text →
    c.modifierName text ∉ c.aliases.key.canonical.keys

/-- Events are legible as `Illegible` says. -/
theorem legible_iff_not_illegible :
    (Event.key key modifiers).Legible c ↔ ¬ c.Illegible key modifiers := by
  simp only [Event.Legible, Illegible, List.mem_append, List.mem_singleton, not_or, not_exists,
    not_and, not_not]
  constructor
  · rintro ⟨hkey, hmodifiers⟩
    refine ⟨?_, fun text htext => (hmodifiers text htext).2⟩
    rintro text (htext | rfl)
    · exact (hmodifiers text htext).1
    · exact hkey
  · rintro ⟨hblank, hnames⟩
    exact ⟨hblank key (Or.inr rfl), fun text htext => ⟨hblank text (Or.inl htext), hnames text htext⟩⟩

/-- The pieces of a chord of texts stand for what the texts stand for on their own. -/
theorem ChordSafe.map_resolve (h : c.ChordSafe key modifiers)
    (hblank : ∀ text ∈ modifiers ++ [key], ¬ IsBlank text) :
    (((modifiers ++ [key]).map canonical).map fun piece =>
        c.aliases.key.canonical.resolve (c.aliases.mod.canonical.resolve piece)) =
      modifiers.map c.modifierName ++ [c.keyOf key] := by
  have hmodifiers : ∀ text ∈ modifiers,
      c.aliases.key.canonical.resolve (c.modifierName text) = c.modifierName text :=
    fun text htext => Aliases.resolve_of_notMem
      (h.modifier_notKeyAlias text htext (hblank text (List.mem_append_left _ htext)))
  have hkey : c.aliases.mod.canonical.resolve (canonical key) = canonical key :=
    Aliases.resolve_of_notMem (h.key_notModifierAlias (hblank key (by simp)))
  rw [List.map_append, List.map_append, List.map_map]
  congr 1
  -- either table leaves alone what is not its own
  · exact List.map_congr_left hmodifiers
  · rw [List.map_singleton, List.map_singleton, hkey]
    rfl

/-- A chord of texts can be read if none of them is blank and what they stand for makes a key
press. -/
theorem ChordSafe.ofChord_eq_ok_iff (h : c.ChordSafe key modifiers) {press : KeyPress} :
    KeyPress.ofChord c.aliases.key c.aliases.mod Chord.plus false
        (Chord.plus.intercalate (modifiers ++ [key])) = .ok press ↔
      (∀ text ∈ modifiers ++ [key], ¬ IsBlank text) ∧
        KeyPress.ofParts? (modifiers.map c.modifierName ++ [c.keyOf key]) false = some press := by
  have hpieces : Chord.pieces '+' (Chord.plus.intercalate (modifiers ++ [key])) =
      (modifiers ++ [key]).map canonical := Chord.pieces_intercalate (by simp) h.separated
  have hblank : "" ∉ (modifiers ++ [key]).map canonical ↔
      ∀ text ∈ modifiers ++ [key], ¬ IsBlank text := by
    simp only [List.mem_map, not_exists, not_and, canonical_eq_empty_iff, IsBlank]
  rw [KeyPress.ofChord_plus_eq_ok_iff, hpieces, hblank]
  refine and_congr_right fun hnot => ?_
  rw [h.map_resolve hnot]

/-- A chord of legible texts gives the modifiers that the texts stand for, without repetitions. -/
theorem ChordSafe.ofChord_eq_ok (h : c.ChordSafe key modifiers)
    (hlegible : ¬ c.Illegible key modifiers) {ms : List Modifier}
    (hms : List.Forall₂ (fun text m => Modifier.name m = c.modifierName text) modifiers ms) :
    KeyPress.ofChord c.aliases.key c.aliases.mod Chord.plus false
        (Chord.plus.intercalate (modifiers ++ [key])) =
      .ok ⟨c.keyOf key, ms.eraseDups, false⟩ := by
  have hblank : ∀ text ∈ modifiers ++ [key], ¬ IsBlank text :=
    fun text htext hblank => hlegible (Or.inl ⟨text, htext, hblank⟩)
  have hkey := h.key_notModifier (hblank key (by simp))
  rw [h.ofChord_eq_ok_iff, KeyPress.ofParts?_concat_eq_some_iff hkey]
  exact ⟨hblank, ms, List.forall₂_map_left_iff.mpr hms, rfl⟩

/-- A chord of illegible texts cannot be read. -/
theorem ChordSafe.ofChord_eq_error (h : c.ChordSafe key modifiers)
    (hillegible : c.Illegible key modifiers) :
    ∃ e, KeyPress.ofChord c.aliases.key c.aliases.mod Chord.plus false
      (Chord.plus.intercalate (modifiers ++ [key])) = .error e := by
  cases hread : KeyPress.ofChord c.aliases.key c.aliases.mod Chord.plus false
      (Chord.plus.intercalate (modifiers ++ [key])) with
  | error e => exact ⟨e, rfl⟩
  | ok press =>
    obtain ⟨hblank, hparts⟩ := h.ofChord_eq_ok_iff.mp hread
    have hkey := h.key_notModifier (hblank key (by simp))
    obtain ⟨ms, hms, -⟩ := (KeyPress.ofParts?_concat_eq_some_iff hkey).mp hparts
    rcases hillegible with ⟨text, htext, htextBlank⟩ | ⟨text, htext, hunknown⟩
    · exact absurd htextBlank (hblank text htext)
    · obtain ⟨m, -, hm⟩ := exists_of_mem_left (List.forall₂_map_left_iff.mp hms) htext
      exact absurd ⟨m, hm⟩ hunknown

theorem command_emit (c : Config) (chord : String) (description : Option String) :
    (Vocabulary.ofConfig c).command ⟨.emit chord, description⟩ =
      (KeyPress.ofChord c.aliases.key c.aliases.mod Chord.plus false chord).map
        fun press => ⟨[.keyPress press], description⟩ := by
  have heffect : (Vocabulary.ofConfig c).effect (.emit chord) =
      (KeyPress.ofChord c.aliases.key c.aliases.mod Chord.plus false chord).map
        fun press => ⟨[.keyPress press], none⟩ := by
    rw [← KeyPress.ofChord_canonical]
    rfl
  rw [Vocabulary.command, heffect]
  cases KeyPress.ofChord c.aliases.key c.aliases.mod Chord.plus false chord with
  | error e => rfl
  | ok press => simp [Except.map]

/-! ### The two forms -/

/-- The binding that writes a key and modifiers as a chord. -/
def Binding.chordForm (key : String) (modifiers : List String) (description : Option String) :
    Binding := ⟨.emit (Chord.plus.intercalate (modifiers ++ [key])), description⟩

/-- The binding that lists a key and modifiers in an event. -/
def Binding.eventForm (key : String) (modifiers : List String) (description : Option String) :
    Binding := ⟨.send [.key key modifiers], description⟩

/-- The event form is read unless a text is illegible. -/
theorem reads_eventForm (c : Config) (key : String) (modifiers : List String)
    (description : Option String) :
    Reads (¬ c.Illegible key modifiers)
      (fun command => ∃ ms,
        List.Forall₂ (fun text m => Modifier.name m = c.modifierName text) modifiers ms ∧
          command = ⟨[.keyPress ⟨c.keyOf key, ms, false⟩], description⟩)
      (fun _ => True)
      ((Vocabulary.ofConfig c).command (.eventForm key modifiers description)) := by
  refine (Vocabulary.reads_command c _).congr ?_ ?_ fun _ _ => trivial
  · rw [← legible_iff_not_illegible]
    exact List.forall_mem_singleton
  · rintro command ⟨hevents⟩
    cases hevents with
    | send each =>
      cases each with
      | cons hevent hrest =>
        cases hrest
        cases hevent with
        | key hms => exact ⟨_, hms, by rw [Option.or_none]⟩

/-- **Both forms are read alike.**  The chord form and the event form of the same texts fail
together, which is when a text is illegible, and otherwise give one press of the same key, with the
same modifiers but for later repetitions, which only the event form keeps. -/
theorem command_chord_forms (c : Config) (key : String) (modifiers : List String)
    (h : c.ChordSafe key modifiers) (description : Option String) :
    ((∃ e, (Vocabulary.ofConfig c).command (.chordForm key modifiers description) = .error e) ↔
        c.Illegible key modifiers) ∧
      ((∃ e, (Vocabulary.ofConfig c).command (.eventForm key modifiers description) = .error e) ↔
        c.Illegible key modifiers) ∧
      (¬ c.Illegible key modifiers → ∃ ms,
        List.Forall₂ (fun text m => Modifier.name m = c.modifierName text) modifiers ms ∧
          (Vocabulary.ofConfig c).command (.eventForm key modifiers description) =
            .ok ⟨[.keyPress ⟨c.keyOf key, ms, false⟩], description⟩ ∧
          (Vocabulary.ofConfig c).command (.chordForm key modifiers description) =
            .ok ⟨[.keyPress ⟨c.keyOf key, ms.eraseDups, false⟩], description⟩) := by
  have hread := reads_eventForm c key modifiers description
  cases hevent : (Vocabulary.ofConfig c).command (.eventForm key modifiers description) with
  | error e =>
    rw [hevent] at hread
    cases hread with
    | error hnot =>
      have hillegible : c.Illegible key modifiers := not_not.mp hnot
      obtain ⟨e', hchord⟩ := h.ofChord_eq_error hillegible
      have hform : (Vocabulary.ofConfig c).command (.chordForm key modifiers description) =
          .error e' := by
        rw [Binding.chordForm, command_emit, hchord]
        rfl
      exact ⟨⟨fun _ => hillegible, fun _ => ⟨e', hform⟩⟩, ⟨fun _ => hillegible, fun _ => ⟨e, rfl⟩⟩,
        fun hlegible => absurd hillegible hlegible⟩
  | ok command =>
    rw [hevent] at hread
    cases hread with
    | ok hlegible hmeans =>
      obtain ⟨ms, hms, rfl⟩ := hmeans
      have hform : (Vocabulary.ofConfig c).command (.chordForm key modifiers description) =
          .ok ⟨[.keyPress ⟨c.keyOf key, ms.eraseDups, false⟩], description⟩ := by
        rw [Binding.chordForm, command_emit, h.ofChord_eq_ok hlegible hms]
        rfl
      refine ⟨⟨?_, fun hillegible => absurd hillegible hlegible⟩,
        ⟨?_, fun hillegible => absurd hillegible hlegible⟩, fun _ => ⟨ms, hms, rfl, hform⟩⟩
      · rintro ⟨e, he⟩
        rw [hform] at he
        cases he
      · rintro ⟨e, he⟩
        cases he

/-- Under the aliases of `Config.browserAndMusic`, where `cmd` is a modifier and `music` a key, the
chord `Shift+ cmd +shift+Music` counts the shift key once. -/
theorem command_chord_forms_shiftTwice :
    (Vocabulary.ofConfig browserAndMusic).command
        (.eventForm "Music" ["Shift", " cmd ", "shift"] none) =
      .ok ⟨[.keyPress ⟨"m", [.shift, .command, .shift], false⟩], none⟩ ∧
    (Vocabulary.ofConfig browserAndMusic).command
        (.chordForm "Music" ["Shift", " cmd ", "shift"] none) =
      .ok ⟨[.keyPress ⟨"m", [.shift, .command], false⟩], none⟩ := by
  have hkey : browserAndMusic.keyOf "Music" = "m" := by decide +kernel
  have hnames : ["Shift", " cmd ", "shift"].map browserAndMusic.modifierName =
      ["shift", "command", "shift"] := by decide +kernel
  have hplain : ∀ text ∈ ["Shift", " cmd ", "shift"],
      browserAndMusic.modifierName text ∉ browserAndMusic.aliases.key.canonical.keys := by
    decide +kernel
  have hsafe : browserAndMusic.ChordSafe "Music" ["Shift", " cmd ", "shift"] := by
    refine ⟨by decide, fun _ => by decide +kernel, fun _ => ?_, fun text htext _ => hplain text htext⟩
    rw [hkey]
    exact Modifier.ofName?_eq_none_iff.mp (by decide)
  have hms : List.Forall₂ (fun text m => Modifier.name m = browserAndMusic.modifierName text)
      ["Shift", " cmd ", "shift"] [.shift, .command, .shift] := by
    rw [← List.forall₂_map_left_iff (R := fun name m => Modifier.name m = name), hnames,
      Modifier.forall₂_name_iff]
    decide
  have hlegible : ¬ browserAndMusic.Illegible "Music" ["Shift", " cmd ", "shift"] := by
    rintro (hblank | ⟨text, htext, hunknown⟩)
    · exact absurd hblank (by decide +kernel)
    · obtain ⟨m, -, hm⟩ := exists_of_mem_left hms htext
      exact hunknown ⟨m, hm⟩
  obtain ⟨ms, hms', hevent, hchord⟩ :=
    (command_chord_forms browserAndMusic _ _ hsafe none).2.2 hlegible
  obtain rfl : [Modifier.shift, .command, .shift] = ms :=
    List.right_unique_forall₂' (fun _ _ _ hm hm' => Modifier.name_injective (hm.trans hm'.symm))
      hms hms'
  rw [hkey] at hevent hchord
  exact ⟨hevent, hchord⟩

end Config

end KeyLayers
