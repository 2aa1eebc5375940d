import KeyLayers.Proofs.Text.Spelling

/-!
# Chords are read piece by piece

A chord is stripped, split at its separator, and each part is brought to
canonical spelling.  The first step does not show in the result: only the blanks
at the ends of the first and the last piece go away earlier, and the canonical
spelling would drop them anyway.  So how a chord reads depends on the canonical
spellings of its pieces alone, and a chord that is put together from texts
without the separator reads as those texts.

## Main definitions

* `Chord.pieces` — the canonical spellings of the pieces of a chord.

## Main results

* `Text.map_strip_splitOn_strip` — stripping a text only strips its pieces.
* `Chord.parts_eq` — the parts of a chord are its pieces.
* `KeyPress.ofChord_eq`, `KeyPress.ofChord_eq_ok_iff` — which key press a chord writes.
* `KeyPress.ofParts?_concat_eq_some_iff` — a key after names that may be modifiers.
-/

namespace KeyLayers

open Text

/-! ### Splitting at one character -/

/-- Splitting at a separator of one character is splitting at that character. -/
theorem splitOn_singleton (separator : Char) (s : List Char) :
    splitOn [separator] 0 s = s.splitOn separator := by
  induction s with
  | nil => rfl
  | cons c s ih =>
    have hbegins : [separator].isPrefixOf (c :: s) = (c == separator) := by
      simp [List.isPrefixOf, Bool.beq_comm]
    rw [splitOn, hbegins, List.splitOn_cons_eq_if_modifyHead]
    by_cases h : c == separator
    · rw [if_pos h, if_pos h]
      exact congrArg ([] :: ·) ih
    · rw [if_neg h, if_neg h, ih]
      cases hpieces : s.splitOn separator with
      | nil => exact absurd hpieces (List.splitOn_ne_nil separator s)
      | cons piece pieces => rfl

namespace Text

/-! ### Blanks at the ends of a text -/

theorem strip_cons_of_isBlank {c : Char} (hc : isBlank c) (s : List Char) :
    strip (c :: s) = strip s := by
  rw [strip, strip, trim_eq_rdropWhile, trim_eq_rdropWhile, List.dropWhile_cons_of_pos hc]

theorem strip_concat_of_isBlank {c : Char} (hc : isBlank c) (s : List Char) :
    strip (s ++ [c]) = strip s := by
  rw [strip, strip, trim_eq_rdropWhile, trim_eq_rdropWhile, List.dropWhile_append]
  cases hdrop : s.dropWhile isBlank with
  -- a text of blanks only leaves nothing either way
  | nil => simp [hc]
  | cons d rest => rw [List.isEmpty_cons, if_neg Bool.false_ne_true,
      List.rdropWhile_concat_pos _ _ _ hc]

section Separator

variable {separator c : Char}

theorem ne_of_isBlank (hsep : isBlank separator = false) (hc : isBlank c) :
    ¬ c == separator := by
  rw [beq_iff_eq]
  rintro rfl
  rw [hsep] at hc
  exact Bool.false_ne_true hc

/-- A blank in front belongs to the first piece. -/
theorem map_strip_splitOn_cons (hsep : isBlank separator = false) (hc : isBlank c)
    (s : List Char) :
    ((c :: s).splitOn separator).map strip = (s.splitOn separator).map strip := by
  rw [List.splitOn_cons_eq_if_modifyHead, if_neg (ne_of_isBlank hsep hc)]
  cases s.splitOn separator with
  | nil => rfl
  | cons piece pieces =>
    rw [List.modifyHead_cons, List.map_cons, List.map_cons, strip_cons_of_isBlank hc]

/-- A character other than the separator, added at the end, is added to the last piece. -/
theorem exists_splitOn_concat (h : ¬ c == separator) (s : List Char) :
    ∃ pieces last, s.splitOn separator = pieces ++ [last] ∧
      (s ++ [c]).splitOn separator = pieces ++ [last ++ [c]] := by
  induction s with
  | nil =>
    refine ⟨[], [], rfl, ?_⟩
    rw [List.nil_append, List.splitOn_cons_eq_if_modifyHead, if_neg h]
    rfl
  | cons d s ih =>
    obtain ⟨pieces, last, hs, hconcat⟩ := ih
    rw [List.cons_append, List.splitOn_cons_eq_if_modifyHead,
      List.splitOn_cons_eq_if_modifyHead, hs, hconcat]
    by_cases hd : d == separator
    · rw [if_pos hd, if_pos hd]
      exact ⟨[] :: pieces, last, rfl, rfl⟩
    · rw [if_neg hd, if_neg hd]
      -- the piece that `d` begins is the last one or one before it
      cases pieces with
      | nil => exact ⟨[], d :: last, rfl, rfl⟩
      | cons piece pieces => exact ⟨(d :: piece) :: pieces, last, rfl, rfl⟩

/-- A blank at the end belongs to the last piece. -/
theorem map_strip_splitOn_concat (hsep : isBlank separator = false) (hc : isBlank c)
    (s : List Char) :
    ((s ++ [c]).splitOn separator).map strip = (s.splitOn separator).map strip := by
  obtain ⟨pieces, last, hs, hconcat⟩ := exists_splitOn_concat (ne_of_isBlank hsep hc) s
  rw [hs, hconcat, List.map_append, List.map_append, List.map_singleton, List.map_singleton,
    strip_concat_of_isBlank hc]

theorem map_strip_splitOn_dropWhile (hsep : isBlank separator = false) (s : List Char) :
    ((s.dropWhile isBlank).splitOn separator).map strip = (s.splitOn separator).map strip := by
  induction s with
  | nil => rfl
  | cons c s ih =>
    by_cases hc : isBlank c
    · rw [List.dropWhile_cons_of_pos hc, ih, map_strip_splitOn_cons hsep hc]
    · rw [List.dropWhile_cons_of_neg hc]

theorem map_strip_splitOn_rdropWhile (hsep : isBlank separator = false) (s : List Char) :
    ((s.rdropWhile isBlank).splitOn separator).map strip = (s.splitOn separator).map strip := by
  induction s using List.reverseRecOn with
  | nil => rfl
  | append_singleton s c ih =>
    by_cases hc : isBlank c
    · rw [List.rdropWhile_concat_pos _ _ _ hc, ih, map_strip_splitOn_concat hsep hc]
    · rw [List.rdropWhile_concat_neg _ _ _ hc]

/-- **Stripping a text only strips its pieces.** -/
theorem map_strip_splitOn_strip (hsep : isBlank separator = false) (s : List Char) :
    ((strip s).splitOn separator).map strip = (s.splitOn separator).map strip := by
  rw [strip, trim_eq_rdropWhile, map_strip_splitOn_rdropWhile hsep,
    map_strip_splitOn_dropWhile hsep]

end Separator

end Text

/-! ### The pieces of a chord -/

namespace Chord

/-- The pieces of a chord between the occurrences of a character, in canonical spelling. -/
def pieces (separator : Char) (chord : String) : List String :=
  (chord.toList.splitOn separator).map fun piece => canonical (String.ofList piece)

variable {separator : Char}

theorem pieces_eq_map_strip (separator : Char) (chord : String) : pieces separator chord =
    ((chord.toList.splitOn separator).map strip).map fun piece =>
      String.ofList (lower piece) := by
  simp only [pieces, List.map_map, canonical, String.toList_ofList]
  rfl

/-- The blanks at the ends of a chord do not show in its pieces. -/
theorem pieces_strip (hsep : isBlank separator = false) (chord : String) :
    pieces separator (String.ofList (strip chord.toList)) = pieces separator chord := by
  rw [pieces_eq_map_strip, pieces_eq_map_strip, String.toList_ofList,
    map_strip_splitOn_strip hsep]

/-- A blank chord has a blank piece. -/
theorem empty_mem_pieces (hsep : isBlank separator = false) {chord : String}
    (h : strip chord.toList = []) : "" ∈ pieces separator chord := by
  rw [← pieces_strip hsep, h]
  exact List.mem_singleton.mpr rfl

/-- Texts without the separator are the pieces of the chord that they make. -/
theorem pieces_intercalate {texts : List String} (hne : texts ≠ [])
    (h : ∀ text ∈ texts, separator ∉ text.toList) :
    pieces separator ((String.ofList [separator]).intercalate texts) = texts.map canonical := by
  have hsplit : ([separator].intercalate (texts.map String.toList)).splitOn separator =
      texts.map String.toList := by
    refine List.splitOn_intercalate separator ?_ (by simpa using hne)
    intro piece hpiece
    obtain ⟨text, htext, rfl⟩ := List.mem_map.mp hpiece
    exact h text htext
  rw [pieces, String.toList_intercalate, String.toList_ofList, hsplit, List.map_map]
  exact List.map_congr_left fun text _ => by rw [Function.comp_apply, String.ofList_toList]

/-- **The parts of a chord are its pieces**, none of which may be blank. -/
theorem parts_eq (hsep : isBlank separator = false) (chord : String) :
    Chord.parts (String.ofList [separator]) chord =
      if strip chord.toList = [] then .error .blankChord
      else if "" ∈ pieces separator chord then
        .error (.blankPart (String.ofList (strip chord.toList)))
      else .ok (pieces separator chord) := by
  have hparts : (splitOn [separator] 0 (strip chord.toList)).map
      (fun piece => canonical (String.ofList piece)) = pieces separator chord := by
    rw [splitOn_singleton, ← pieces_strip hsep, pieces, String.toList_ofList]
  have hnonempty : String.ofList [separator] ≠ "" := by simp
  unfold Chord.parts
  simp only [String.toList_ofList, hparts, if_neg hnonempty, List.isEmpty_iff,
    List.contains_iff_mem]

end Chord

/-! ### Names of modifiers -/

namespace Modifier

/-- The modifiers that names stand for, all of them or not at all. -/
theorem forall₂_name_iff {names : List String} {ms : List Modifier} :
    List.Forall₂ (fun name m => Modifier.name m = name) names ms ↔
      names.filter (fun name => (ofName? name).isNone) = [] ∧ names.filterMap ofName? = ms := by
  induction names generalizing ms with
  | nil => simp [eq_comm]
  | cons name names ih =>
    rw [List.forall₂_cons_left_iff]
    cases h : ofName? name with
    | none =>
      have hnone := ofName?_eq_none_iff.mp h
      simp [h, hnone]
    | some m =>
      rw [List.filter_cons_of_neg (by simp [h]), List.filterMap_cons_some h]
      constructor
      · rintro ⟨m', ms', hname, hrest, rfl⟩
        obtain rfl : m = m' := by
          rw [← ofName?_eq_some_iff, h] at hname
          exact Option.some.inj hname
        obtain ⟨hnone, rfl⟩ := ih.mp hrest
        exact ⟨hnone, rfl⟩
      · rintro ⟨hnone, rfl⟩
        exact ⟨m, _, ofName?_eq_some_iff.mp h, ih.mpr ⟨hnone, rfl⟩, rfl⟩

end Modifier

/-! ### The key press of a chord -/

namespace KeyPress

theorem translate_of_ofParts? {parts : List String} {translate : Bool} {press : KeyPress}
    (h : ofParts? parts translate = some press) : press.translate = translate := by
  unfold ofParts? at h
  split at h
  · cases h
    rfl
  · cases h

/-- A chord goes through the layout if that is asked for. -/
theorem translate_of_ofChord {keys modifiers : Aliases} {separator chord : String}
    {translate : Bool} {press : KeyPress}
    (h : ofChord keys modifiers separator translate chord = .ok press) :
    press.translate = translate := by
  unfold ofChord at h
  cases hparts : Chord.parts separator chord with
  | error e =>
    rw [hparts] at h
    cases h
  | ok parts =>
    simp only [hparts] at h
    split at h
    · next press' hpress =>
      cases h
      exact translate_of_ofParts? hpress
    · cases h

/-- The steps of reading a chord, in their order. -/
theorem ofChord_eq {separator : Char} (hsep : isBlank separator = false)
    {keys modifiers : Aliases} {translate : Bool} {chord : String} :
    ofChord keys modifiers (String.ofList [separator]) translate chord =
      if strip chord.toList = [] then .error .blankChord
      else if "" ∈ Chord.pieces separator chord then
        .error (.blankPart (String.ofList (strip chord.toList)))
      else
        match ofParts? ((Chord.pieces separator chord).map fun piece =>
          keys.canonical.resolve (modifiers.canonical.resolve piece)) translate with
        | some press => .ok press
        | none => .error (.notOneKey chord) := by
  unfold ofChord
  rw [Chord.parts_eq hsep]
  split_ifs <;> rfl

/-- **Which key press a chord writes.**  No piece may be blank, and what the pieces stand for must
be modifiers and one key. -/
theorem ofChord_eq_ok_iff {separator : Char} (hsep : isBlank separator = false)
    {keys modifiers : Aliases} {translate : Bool} {chord : String} {press : KeyPress} :
    ofChord keys modifiers (String.ofList [separator]) translate chord = .ok press ↔
      "" ∉ Chord.pieces separator chord ∧
        ofParts? ((Chord.pieces separator chord).map fun piece =>
          keys.canonical.resolve (modifiers.canonical.resolve piece)) translate = some press := by
  rw [ofChord_eq hsep]
  by_cases hmem : "" ∈ Chord.pieces separator chord
  · split_ifs <;> simp [hmem]
  · have hblank : strip chord.toList ≠ [] := fun h => hmem (Chord.empty_mem_pieces hsep h)
    rw [if_neg hblank, if_neg hmem]
    cases hpress : ofParts? ((Chord.pieces separator chord).map fun piece =>
      keys.canonical.resolve (modifiers.canonical.resolve piece)) translate with
    | none => simp
    | some press' => simp [hmem]

theorem ofChord_plus_eq_ok_iff {keys modifiers : Aliases} {translate : Bool} {chord : String}
    {press : KeyPress} : ofChord keys modifiers Chord.plus translate chord = .ok press ↔
      "" ∉ Chord.pieces '+' chord ∧
        ofParts? ((Chord.pieces '+' chord).map fun piece =>
          keys.canonical.resolve (modifiers.canonical.resolve piece)) translate = some press :=
  ofChord_eq_ok_iff (by decide)

/-- A key after names gives a key press if all the names are modifiers, which it has without their
repetitions. -/
theorem ofParts?_concat_eq_some_iff {key : String} (hkey : ∀ m : Modifier, m.name ≠ key)
    {names : List String} {translate : Bool} {press : KeyPress} :
    ofParts? (names ++ [key]) translate = some press ↔
      ∃ ms, List.Forall₂ (fun name m => Modifier.name m = name) names ms ∧
        press = ⟨key, ms.eraseDups, translate⟩ := by
  have hnone := Modifier.ofName?_eq_none_iff.mpr hkey
  simp only [Modifier.forall₂_name_iff, and_assoc, exists_and_left, exists_eq_left']
  unfold ofParts?
  rw [List.filter_append, List.filterMap_append]
  cases hnames : names.filter fun name => (Modifier.ofName? name).isNone with
  | nil => simp [hnone, eq_comm]
  -- a name that is no modifier is a second key
  | cons other others => simp [hnone]

end KeyPress

end KeyLayers
