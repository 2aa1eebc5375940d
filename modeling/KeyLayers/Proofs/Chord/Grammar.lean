import KeyLayers.Proofs.Chord
import KeyLayers.Proofs.Config.Meaning
import KeyLayers.Proofs.FirstOccurrences

/-!
# The grammar of chords

What chords are and what they write, said on its own and not by how they are
read.  A chord is a number of pieces with the separator between them.  Each
piece has a name, which is found in three steps: its canonical spelling, what
this is an alias of among the modifiers, and what that is an alias of among the
keys.  Either table may turn a modifier into a key or a key into a modifier, so
it is only the names that tell which piece is the key; it may stand anywhere.

Reading follows the grammar exactly: what it accepts, what it makes of it, and
which error it gives for the rest.  A key press can then be written again in its
plainest form, because no letter becomes the separator in lower case.

## Main definitions

* `Chord.Written`, `Chord.Names` — the pieces of a chord, and their names.
* `Chord.OneKey`, `Chord.Writes` — the key among the names, and the key press.
* `Chord.Fault` — what is wrong with a chord.
* `KeyPress.spelling` — a key press as a chord.

## Main results

* `Chord.names_iff` — the names of a chord are those of its pieces.
* `KeyPress.ofParts?_eq_some_iff` — which key press names make.
* `KeyPress.ofChord_grammar` — **reading accepts exactly the grammar.**
-/

namespace KeyLayers

open Text

/-! ### The grammar -/

namespace Chord

variable (keys modifiers : Aliases) (separator : Char) (chord : String)

/-- The chord consists of the pieces with the separator between them. -/
structure Written (pieces : List String) : Prop where
  /-- There is at least one piece. -/
  nonempty : pieces ≠ []
  /-- The separator stands in no piece. -/
  apart : ∀ piece ∈ pieces, separator ∉ piece.toList
  /-- Together they are the chord. -/
  joined : (String.ofList [separator]).intercalate pieces = chord

/-- What a piece is called: the aliases of modifiers are looked up first, then those of keys. -/
def nameOf (piece : String) : String :=
  keys.canonical.resolve (modifiers.canonical.resolve (canonical piece))

/-- The chord has pieces with these names, and none of them is blank. -/
inductive Names : List String → Prop
  /-- Each piece gives one name. -/
  | intro {pieces : List String} (written : Written separator chord pieces)
      (legible : ∀ piece ∈ pieces, ¬ IsBlank piece) : Names (pieces.map (nameOf keys modifiers))

/-- Exactly one of the names is that of no modifier, and the others are those before and after. -/
inductive OneKey : List String → KeyCode → List String → Prop
  /-- The key stands anywhere among them. -/
  | intro {before after : List String} {key : KeyCode} (isKey : ∀ m : Modifier, m.name ≠ key)
      (others : ∀ name ∈ before ++ after, ∃ m : Modifier, m.name = name) :
      OneKey (before ++ key :: after) key (before ++ after)

/-- The key press that a chord writes has the one key, and the other names are the modifiers. -/
inductive Writes (press : KeyPress) : Prop
  /-- A modifier counts where it occurs first. -/
  | intro {names others : List String} (named : Names keys modifiers separator chord names)
      (oneKey : OneKey names press.keyCode others)
      (firsts : FirstsOf others (press.modifiers.map Modifier.name)) : Writes press

/-- What is wrong with a chord. -/
inductive Fault : SpellingError → Prop
  /-- Nothing is written. -/
  | blankChord (blank : IsBlank chord) : Fault .blankChord
  /-- One of the pieces is blank. -/
  | blankPart {pieces : List String} {piece : String} (notBlank : ¬ IsBlank chord)
      (written : Written separator chord pieces) (mem : piece ∈ pieces) (blank : IsBlank piece) :
      Fault (.blankPart (String.ofList (strip chord.toList)))
  /-- There is no key or more than one. -/
  | notOneKey {names : List String} (named : Names keys modifiers separator chord names)
      (noKey : ∀ key others, ¬ OneKey names key others) : Fault (.notOneKey chord)

end Chord

/-! ### Pieces -/

/-- The pieces of a text lack the character at which it was split. -/
theorem notMem_of_mem_splitOn {separator : Char} {s : List Char} :
    ∀ piece ∈ s.splitOn separator, separator ∉ piece := by
  induction s with
  | nil =>
    intro piece hpiece
    obtain rfl := List.mem_singleton.mp hpiece
    exact List.not_mem_nil
  | cons c s ih =>
    rw [List.splitOn_cons_eq_if_modifyHead]
    by_cases h : c == separator
    · rw [if_pos h]
      exact List.forall_mem_cons.mpr ⟨List.not_mem_nil, ih⟩
    · rw [if_neg h]
      cases hpieces : s.splitOn separator with
      | nil => exact absurd hpieces (List.splitOn_ne_nil separator s)
      | cons first rest =>
        rw [hpieces] at ih
        obtain ⟨hfirst, hrest⟩ := List.forall_mem_cons.mp ih
        refine List.forall_mem_cons.mpr ⟨?_, hrest⟩
        rw [List.mem_cons, not_or]
        exact ⟨fun heq => h (beq_iff_eq.mpr heq.symm), hfirst⟩

namespace Chord

variable {keys modifiers : Aliases} {separator : Char} {chord : String} {names : List String}

/-- Every chord can be written as pieces. -/
theorem exists_written (separator : Char) (chord : String) :
    ∃ pieces, Written separator chord pieces := by
  refine ⟨(chord.toList.splitOn separator).map String.ofList, ?_, ?_, ?_⟩
  · simp [List.splitOn_ne_nil]
  · intro piece hpiece
    obtain ⟨s, hs, rfl⟩ := List.mem_map.mp hpiece
    rw [String.toList_ofList]
    exact notMem_of_mem_splitOn s hs
  · rw [← String.toList_inj, String.toList_intercalate, String.toList_ofList, List.map_map]
    have hback : String.toList ∘ String.ofList = id := funext fun s => String.toList_ofList
    rw [hback, List.map_id, List.intercalate_splitOn]

/-- A chord determines the pieces that it is written as, up to their canonical spellings. -/
theorem Written.pieces_eq {texts : List String} (h : Written separator chord texts) :
    pieces separator chord = texts.map canonical := by
  rw [← h.joined]
  exact pieces_intercalate h.nonempty h.apart

theorem Written.empty_mem_pieces_iff {texts : List String} (h : Written separator chord texts) :
    "" ∈ pieces separator chord ↔ ∃ text ∈ texts, IsBlank text := by
  rw [h.pieces_eq, List.mem_map]
  simp only [canonical_eq_empty_iff]
  rfl

/-- **The names of a chord are those of its pieces**, if none of them is blank. -/
theorem names_iff : Names keys modifiers separator chord names ↔
    "" ∉ pieces separator chord ∧ names = (pieces separator chord).map fun piece =>
      keys.canonical.resolve (modifiers.canonical.resolve piece) := by
  have hnames : ∀ texts : List String, texts.map (nameOf keys modifiers) =
      (texts.map canonical).map fun piece =>
        keys.canonical.resolve (modifiers.canonical.resolve piece) := by
    intro texts
    rw [List.map_map]
    rfl
  constructor
  · rintro ⟨hwritten, hlegible⟩
    refine ⟨?_, by rw [hwritten.pieces_eq, hnames]⟩
    rw [hwritten.empty_mem_pieces_iff]
    rintro ⟨piece, hmem, hblank⟩
    exact hlegible piece hmem hblank
  · rintro ⟨hlegible, rfl⟩
    obtain ⟨texts, hwritten⟩ := exists_written separator chord
    rw [hwritten.pieces_eq, ← hnames]
    rw [hwritten.empty_mem_pieces_iff] at hlegible
    exact .intro hwritten fun piece hmem hblank => hlegible ⟨piece, hmem, hblank⟩

/-! ### The key among the names -/

theorem isNone_ofName?_iff {name : String} :
    (Modifier.ofName? name).isNone ↔ ∀ m : Modifier, m.name ≠ name := by
  rw [Option.isNone_iff_eq_none, Modifier.ofName?_eq_none_iff]

/-- The names that are no modifiers' are one if there is one key. -/
theorem filter_eq_singleton_iff {key : KeyCode} :
    (names.filter fun name => (Modifier.ofName? name).isNone) = [key] ↔
      ∃ others, OneKey names key others := by
  have hmodifier : ∀ name, ¬ (Modifier.ofName? name).isNone ↔ ∃ m : Modifier, m.name = name := by
    intro name
    rw [isNone_ofName?_iff]
    push Not
    rfl
  rw [List.filter_eq_cons_iff]
  constructor
  · rintro ⟨before, after, rfl, hbefore, hkey, hafter⟩
    rw [List.filter_eq_nil_iff] at hafter
    refine ⟨before ++ after, .intro (isNone_ofName?_iff.mp hkey) ?_⟩
    intro name hname
    rw [← hmodifier]
    rcases List.mem_append.mp hname with h | h
    · exact hbefore name h
    · exact hafter name h
  · rintro ⟨_, hkey, hothers⟩
    simp only [← hmodifier] at hothers
    obtain ⟨hbefore, hafter⟩ := List.forall_mem_append.mp hothers
    exact ⟨_, _, rfl, hbefore, isNone_ofName?_iff.mpr hkey, List.filter_eq_nil_iff.mpr hafter⟩

theorem OneKey.mem {key : KeyCode} {others : List String} (h : OneKey names key others) :
    key ∈ names := by
  cases h with
  | intro isKey others => exact List.mem_append_right _ List.mem_cons_self

theorem OneKey.name_ne {key : KeyCode} {others : List String} (h : OneKey names key others) :
    ∀ m : Modifier, m.name ≠ key := by
  cases h with
  | intro isKey others => exact isKey

/-- The other names are those of the modifiers that are found among all of them. -/
theorem OneKey.map_name {key : KeyCode} {others : List String} (h : OneKey names key others) :
    (names.filterMap Modifier.ofName?).map Modifier.name = others := by
  obtain @⟨before, after, key, hkey, hothers⟩ := h
  have hnone : Modifier.ofName? key = none := Modifier.ofName?_eq_none_iff.mpr hkey
  rw [List.filterMap_append, List.filterMap_cons_none hnone, ← List.filterMap_append]
  generalize before ++ after = others at hothers
  induction others with
  | nil => rfl
  | cons name others ih =>
    obtain ⟨⟨m, hm⟩, hrest⟩ := List.forall_mem_cons.mp hothers
    rw [List.filterMap_cons_some (Modifier.ofName?_eq_some_iff.mpr hm), List.map_cons, hm, ih hrest]

end Chord

/-! ### Reading -/

/-- The names of modifiers are in canonical spelling. -/
theorem Modifier.canonical_name (m : Modifier) : canonical m.name = m.name := by
  cases m <;> decide +kernel

namespace KeyPress

open Chord

variable {keys modifiers : Aliases} {separator : Char} {translate : Bool} {chord : String}
  {names : List String} {press : KeyPress}

/-- **Which key press names make**: exactly one is the key, and the others are the modifiers. -/
theorem ofParts?_eq_some_iff : ofParts? names translate = some press ↔
    (∃ others, OneKey names press.keyCode others ∧
      FirstsOf others (press.modifiers.map Modifier.name)) ∧ press.translate = translate := by
  have hname : Function.Injective Modifier.name := fun _ _ h => Modifier.name_injective h
  obtain ⟨keyCode, ms, asked⟩ := press
  unfold ofParts?
  constructor
  · intro h
    split at h
    · next key hfilter =>
      cases h
      obtain ⟨others, hkey⟩ := filter_eq_singleton_iff.mp hfilter
      refine ⟨⟨others, hkey, ?_⟩, rfl⟩
      rw [← eraseDups_map hname, hkey.map_name]
      exact firstsOf_eraseDups others
    · cases h
  · rintro ⟨⟨others, hkey, hfirsts⟩, rfl⟩
    have hms : (names.filterMap Modifier.ofName?).eraseDups = ms := by
      apply List.map_injective_iff.mpr hname
      rw [← eraseDups_map hname, hkey.map_name]
      exact hfirsts.eq_eraseDups.symm
    rw [filter_eq_singleton_iff.mpr ⟨others, hkey⟩, hms]

/-- Names make a key press if there is one key among them. -/
theorem ofParts?_eq_none_iff :
    ofParts? names translate = none ↔ ∀ key others, ¬ OneKey names key others := by
  unfold ofParts?
  split
  · next key hfilter =>
    obtain ⟨others, hkey⟩ := filter_eq_singleton_iff.mp hfilter
    constructor
    · intro h
      cases h
    · intro h
      exact absurd hkey (h key others)
  · next hfilter =>
    refine ⟨fun _ key others hkey => ?_, fun _ => rfl⟩
    exact hfilter key (filter_eq_singleton_iff.mpr ⟨others, hkey⟩)

/-- Reading gives what the grammar says that the chord writes. -/
theorem ofChord_eq_ok_iff_writes (hsep : isBlank separator = false) :
    ofChord keys modifiers (String.ofList [separator]) translate chord = .ok press ↔
      Writes keys modifiers separator chord press ∧ press.translate = translate := by
  rw [ofChord_eq_ok_iff hsep, ofParts?_eq_some_iff]
  constructor
  · rintro ⟨hlegible, ⟨others, hkey, hfirsts⟩, htranslate⟩
    exact ⟨.intro (names_iff.mpr ⟨hlegible, rfl⟩) hkey hfirsts, htranslate⟩
  · rintro ⟨⟨hnames, hkey, hfirsts⟩, htranslate⟩
    obtain ⟨hlegible, rfl⟩ := names_iff.mp hnames
    exact ⟨hlegible, ⟨_, hkey, hfirsts⟩, htranslate⟩

/-- Something is read if the names of the chord have one key among them. -/
theorem exists_ofChord_iff (hsep : isBlank separator = false) :
    (∃ press, ofChord keys modifiers (String.ofList [separator]) translate chord = .ok press) ↔
      ∃ names key others, Names keys modifiers separator chord names ∧ OneKey names key others := by
  constructor
  · rintro ⟨press, hpress⟩
    obtain ⟨⟨hnames, hkey, -⟩, -⟩ := (ofChord_eq_ok_iff_writes hsep).mp hpress
    exact ⟨_, _, _, hnames, hkey⟩
  · rintro ⟨names, key, others, hnames, hkey⟩
    obtain ⟨hlegible, rfl⟩ := names_iff.mp hnames
    cases hparts : ofParts? ((pieces separator chord).map fun piece =>
        keys.canonical.resolve (modifiers.canonical.resolve piece)) translate with
    | some press => exact ⟨press, (ofChord_eq_ok_iff hsep).mpr ⟨hlegible, hparts⟩⟩
    | none => exact absurd hkey (ofParts?_eq_none_iff.mp hparts key others)

/-- An error says what is wrong. -/
theorem fault_of_ofChord {e : SpellingError} (hsep : isBlank separator = false)
    (h : ofChord keys modifiers (String.ofList [separator]) translate chord = .error e) :
    Fault keys modifiers separator chord e := by
  rw [ofChord_eq hsep] at h
  split_ifs at h with hblank hmem
  · cases h
    exact .blankChord hblank
  · cases h
    obtain ⟨texts, hwritten⟩ := exists_written separator chord
    obtain ⟨piece, hpiece, hpieceBlank⟩ := hwritten.empty_mem_pieces_iff.mp hmem
    exact .blankPart hblank hwritten hpiece hpieceBlank
  · split at h
    · cases h
    · next hnone =>
      cases h
      exact .notOneKey (names_iff.mpr ⟨hmem, rfl⟩) (ofParts?_eq_none_iff.mp hnone)

/-- What is wrong is said by the error. -/
theorem ofChord_of_fault {e : SpellingError} (hsep : isBlank separator = false)
    (h : Fault keys modifiers separator chord e) :
    ofChord keys modifiers (String.ofList [separator]) translate chord = .error e := by
  rw [ofChord_eq hsep]
  cases h with
  | blankChord hblank => exact if_pos hblank
  | blankPart hblank hwritten hpiece hpieceBlank =>
    have hmem : "" ∈ pieces separator chord :=
      hwritten.empty_mem_pieces_iff.mpr ⟨_, hpiece, hpieceBlank⟩
    have hnonempty : strip chord.toList ≠ [] := hblank
    rw [if_neg hnonempty, if_pos hmem]
  | notOneKey hnames hnone =>
    obtain ⟨hlegible, rfl⟩ := names_iff.mp hnames
    have hblank : strip chord.toList ≠ [] := fun h => hlegible (empty_mem_pieces hsep h)
    rw [if_neg hblank, if_neg hlegible, ofParts?_eq_none_iff.mpr hnone]

/-! ### Writing a key press again -/

/-- A key press as a chord: the modifiers in order, then the key. -/
def spelling (press : KeyPress) : String :=
  Chord.plus.intercalate (press.modifiers.map Modifier.name ++ [press.keyCode])

/-- What a chord without aliases writes can be written again. -/
structure Spellable (press : KeyPress) : Prop where
  /-- The key is in canonical spelling. -/
  canonical_keyCode : canonical press.keyCode = press.keyCode
  /-- It is not blank. -/
  keyCode_ne : press.keyCode ≠ ""
  /-- The separator does not stand in it. -/
  plus_notMem : '+' ∉ press.keyCode.toList
  /-- It is no modifier. -/
  keyCode_ne_name : ∀ m : Modifier, m.name ≠ press.keyCode
  /-- No modifier is repeated. -/
  modifiers_nodup : press.modifiers.Nodup

/-- Without aliases a piece is called by its canonical spelling. -/
theorem nameOf_empty (piece : String) : nameOf .empty .empty piece = canonical piece := rfl

/-- A key press that a chord without aliases writes can be written again. -/
theorem spellable_of_writes (h : Writes .empty .empty '+' chord press) : press.Spellable := by
  obtain ⟨⟨hwritten, hlegible⟩, hkey, hfirsts⟩ := h
  obtain ⟨piece, hpiece, hcanonical⟩ := List.mem_map.mp hkey.mem
  rw [nameOf_empty] at hcanonical
  refine ⟨?_, ?_, ?_, hkey.name_ne, ?_⟩
  · rw [← hcanonical, canonical_canonical]
  · rw [← hcanonical, Ne, canonical_eq_empty_iff]
    exact hlegible piece hpiece
  · rw [← hcanonical]
    exact fun hplus => hwritten.apart piece hpiece (mem_of_mem_canonical (by decide +kernel) hplus)
  · exact .of_map _ hfirsts.nodup

/-- **A key press is read from its spelling**, if it can be written. -/
theorem Spellable.ofChord_spelling (h : press.Spellable) :
    ofChord .empty .empty Chord.plus press.translate press.spelling = .ok press := by
  have htexts : ∀ text ∈ press.modifiers.map Modifier.name ++ [press.keyCode],
      '+' ∉ text.toList ∧ canonical text = text ∧ text ≠ "" := by
    intro text htext
    rcases List.mem_append.mp htext with hmem | hmem
    · obtain ⟨m, -, rfl⟩ := List.mem_map.mp hmem
      exact ⟨by cases m <;> decide, m.canonical_name, by cases m <;> decide⟩
    · obtain rfl := List.mem_singleton.mp hmem
      exact ⟨h.plus_notMem, h.canonical_keyCode, h.keyCode_ne⟩
  have hpieces : pieces '+' press.spelling =
      press.modifiers.map Modifier.name ++ [press.keyCode] := by
    have hjoined : pieces '+' press.spelling =
        (press.modifiers.map Modifier.name ++ [press.keyCode]).map canonical :=
      pieces_intercalate (by simp) fun text htext => (htexts text htext).1
    rw [hjoined]
    exact (List.map_congr_left fun text htext => (htexts text htext).2.1).trans (List.map_id _)
  have hresolve : ∀ names : List String, (names.map fun piece =>
      (Aliases.canonical .empty).resolve ((Aliases.canonical .empty).resolve piece)) = names :=
    fun names => List.map_id names
  rw [ofChord_plus_eq_ok_iff, hpieces, hresolve,
    ofParts?_concat_eq_some_iff h.keyCode_ne_name]
  refine ⟨fun hempty => (htexts "" hempty).2.2 rfl, press.modifiers, ?_, ?_⟩
  · rw [List.forall₂_map_left_iff, List.forall₂_same]
    exact fun m _ => rfl
  · rw [eraseDups_of_nodup h.modifiers_nodup]

/-- **Reading accepts exactly the grammar.**  For a separator that is not blank, reading gives what
the grammar says that the chord writes; it gives something if the chord has pieces of which exactly
one names a key, and else the error for what is wrong with it.  What a chord without aliases writes
is read again from its spelling. -/
theorem ofChord_grammar (hsep : isBlank separator = false) (keys modifiers : Aliases)
    (translate : Bool) (chord : String) :
    (∀ press, ofChord keys modifiers (String.ofList [separator]) translate chord = .ok press ↔
      Writes keys modifiers separator chord press ∧ press.translate = translate) ∧
    ((∃ press, ofChord keys modifiers (String.ofList [separator]) translate chord = .ok press) ↔
      ∃ names key others, Names keys modifiers separator chord names ∧ OneKey names key others) ∧
    (∀ e, ofChord keys modifiers (String.ofList [separator]) translate chord = .error e ↔
      Fault keys modifiers separator chord e) ∧
    ∀ press, ofChord .empty .empty Chord.plus translate chord = .ok press →
      ofChord .empty .empty Chord.plus translate press.spelling = .ok press := by
  refine ⟨fun press => ofChord_eq_ok_iff_writes hsep, exists_ofChord_iff hsep,
    fun e => ⟨fault_of_ofChord hsep, ofChord_of_fault hsep⟩, ?_⟩
  intro press hpress
  obtain ⟨hwrites, rfl⟩ := (ofChord_eq_ok_iff_writes (by decide)).mp hpress
  exact (spellable_of_writes hwrites).ofChord_spelling

theorem ofChord_grammar_keyInside : isBlank '-' = false ∧
    Writes (.ofList [("ESC", "Escape")]) (.ofList [("cmd", "Command")]) '-' " Cmd-esc-shift -CMD"
      ⟨"escape", [.command, .shift], false⟩ ∧
    Fault (.ofList [("ESC", "Escape")]) (.ofList [("cmd", "Command")]) '-' "esc-cmd-f6"
      (.notOneKey "esc-cmd-f6") := by
  have hgrammar := ofChord_grammar (by decide : isBlank '-' = false)
    (.ofList [("ESC", "Escape")]) (.ofList [("cmd", "Command")]) false
  refine ⟨by decide, ?_, ?_⟩
  · exact (((hgrammar " Cmd-esc-shift -CMD").1 _).mp (by decide +kernel)).1
  · exact ((hgrammar "esc-cmd-f6").2.2.1 _).mp (by decide +kernel)

end KeyPress

end KeyLayers
