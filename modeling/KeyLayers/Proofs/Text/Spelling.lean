import Mathlib.Data.List.DropRight
import KeyLayers.Chord
import KeyLayers.Proofs.OrderedMap
import KeyLayers.Proofs.Text.SmallLetters

/-!
# Canonical spelling is stable

Bringing a text to canonical spelling twice is the same as doing it once: what is
left after the blanks at the ends are gone has none there, lower-casing makes no
blank, and small letters stay small.  So aliases that are already canonical are
not changed either, neither their texts nor their order, and a chord may be read
under the aliases as they were written or in canonical spelling.

## Main definitions

* `Text.IsTrimmed` — no character of a class at either end.

## Main results

* `canonical_canonical` — a canonical text is its own canonical spelling.
* `canonical_eq_empty_iff` — which texts have the empty one.
* `mem_of_mem_canonical` — characters that only come from themselves.
* `Aliases.canonical_canonical` — canonical aliases are their own canonical form.
* `KeyPress.ofChord_canonical` — chords under canonical aliases.
-/

namespace KeyLayers

namespace Text

/-! ### Trimming -/

/-- No character of the class stands at either end. -/
structure IsTrimmed (p : Char → Bool) (s : List Char) : Prop where
  /-- The first character is not of the class. -/
  head : ∀ c, s.head? = some c → p c = false
  /-- Nor is the last. -/
  last : ∀ c, s.getLast? = some c → p c = false

variable {p : Char → Bool} {s : List Char}

theorem trim_eq_rdropWhile (p : Char → Bool) (s : List Char) :
    trim p s = (s.dropWhile p).rdropWhile p := rfl

theorem isTrimmed_trim (p : Char → Bool) (s : List Char) : IsTrimmed p (trim p s) where
  head := by
    intro c hc
    obtain ⟨rest, hrest⟩ : trim p s <+: s.dropWhile p := List.rdropWhile_prefix p _
    have hdrop : (s.dropWhile p).head? = some c := by
      rw [← hrest]
      exact List.mem_head?_append_of_mem_head? hc
    have hnot := List.head?_dropWhile_not p s
    rw [hdrop] at hnot
    simpa using hnot
  last := by
    intro c hc
    -- `rdropWhile_last_not` speaks of the last element of a list that has one
    have hne : (s.dropWhile p).rdropWhile p ≠ [] := by
      rw [← trim_eq_rdropWhile]
      rintro hnil
      rw [hnil] at hc
      simp at hc
    have hnot := List.rdropWhile_last_not p _ hne
    rw [trim_eq_rdropWhile, List.getLast?_eq_getLast_of_ne_nil hne, Option.some.injEq] at hc
    rw [← hc]
    simpa using hnot

theorem trim_of_isTrimmed (h : IsTrimmed p s) : trim p s = s := by
  have hleft : s.dropWhile p = s := by
    cases s with
    | nil => rfl
    | cons c s =>
      have hc := h.head c rfl
      exact List.dropWhile_cons_of_neg (by simp [hc])
  rw [trim_eq_rdropWhile, hleft, List.rdropWhile_eq_self_iff]
  intro hne
  have hc := h.last _ (List.getLast?_eq_getLast_of_ne_nil hne)
  simp [hc]

/-! ### Lower-casing between blanks -/

theorem lowerAfter_ne_nil {before s : List Char} (h : s ≠ []) : lowerAfter before s ≠ [] := by
  cases s with
  | nil => exact absurd rfl h
  | cons c after =>
    rw [lowerAfter]
    exact List.append_ne_nil_of_left_ne_nil (lowerChar_ne_nil before c after) _

/-- The last character of a lower-case form comes from the last character. -/
theorem getLast?_lowerAfter {d : Char} : ∀ {before s : List Char},
    (lowerAfter before s).getLast? = some d →
      ∃ before' c after, s.getLast? = some c ∧ d ∈ lowerChar before' c after := by
  intro before s
  induction s generalizing before with
  | nil => intro h; simp [lowerAfter] at h
  | cons c after ih =>
    intro h
    rw [lowerAfter] at h
    cases after with
    | nil =>
      rw [lowerAfter, List.append_nil] at h
      exact ⟨before, c, [], rfl, List.mem_of_getLast? h⟩
    | cons e after =>
      -- the forms of the later characters are not empty, so the last one is among them
      have hne : lowerAfter (c :: before) (e :: after) ≠ [] := lowerAfter_ne_nil (by simp)
      rw [List.getLast?_append_of_ne_nil _ hne] at h
      obtain ⟨before', c', after', hlast, hd⟩ := ih h
      exact ⟨before', c', after', by rw [List.getLast?_cons_cons]; exact hlast, hd⟩

/-- Lower-casing puts no blank at the ends. -/
theorem isTrimmed_lower (h : IsTrimmed isBlank s) : IsTrimmed isBlank (lower s) where
  head := by
    intro d hd
    cases s with
    | nil => simp at hd
    | cons c after =>
      rw [lower, lowerAfter, List.head?_append_of_ne_nil _ (lowerChar_ne_nil [] c after)] at hd
      by_contra hblank
      have hc := isBlank_of_mem_lowerChar (List.mem_of_head? hd) (by simpa using hblank)
      rw [h.head c rfl] at hc
      simp at hc
  last := by
    intro d hd
    obtain ⟨before, c, after, hlast, hmem⟩ := getLast?_lowerAfter hd
    by_contra hblank
    have hc := isBlank_of_mem_lowerChar hmem (by simpa using hblank)
    rw [h.last c hlast] at hc
    simp at hc

end Text

open Text

/-! ### Canonical texts -/

/-- **A canonical text is its own canonical spelling.** -/
theorem canonical_canonical (s : String) : canonical (canonical s) = canonical s := by
  have htrimmed : IsTrimmed isBlank (lower (strip s.toList)) :=
    isTrimmed_lower (isTrimmed_trim isBlank s.toList)
  have hstrip : strip (lower (strip s.toList)) = lower (strip s.toList) :=
    trim_of_isTrimmed htrimmed
  rw [canonical, canonical, String.toList_ofList, hstrip, lower_lower]

theorem canonical_eq_empty_iff {s : String} : canonical s = "" ↔ strip s.toList = [] := by
  constructor
  · intro h
    by_contra hne
    have hlower : lower (strip s.toList) = [] := by
      have h' := congrArg String.toList h
      rwa [canonical, String.toList_ofList] at h'
    exact lowerAfter_ne_nil hne hlower
  · intro h
    rw [canonical, h]
    rfl

/-- A character that is no small letter stands in the canonical spelling only if it stands in the
text. -/
theorem mem_of_mem_canonical {d : Char} (hd : isNoSmallLetter d) {s : String}
    (h : d ∈ (canonical s).toList) : d ∈ s.toList := by
  rw [canonical, String.toList_ofList] at h
  have hstrip : d ∈ strip s.toList := mem_of_mem_lowerAfter hd h
  rw [strip, trim_eq_rdropWhile] at hstrip
  have hdrop : d ∈ s.toList.dropWhile isBlank := (List.rdropWhile_prefix isBlank _).mem hstrip
  exact (List.dropWhile_suffix isBlank).mem hdrop

/-! ### Canonical aliases -/

namespace Aliases

/-- The keys and values of canonical aliases are canonical. -/
theorem canonical_of_mem (a : Aliases) : ∀ e ∈ a.canonical.entries,
    KeyLayers.canonical e.1 = e.1 ∧ KeyLayers.canonical e.2 = e.2 := by
  refine Entries.forall_mem_insertAll (P := fun k => KeyLayers.canonical k = k)
    (Q := fun v => KeyLayers.canonical v = v) (fun e he => absurd he List.not_mem_nil) ?_
  intro e he
  obtain ⟨d, -, rfl⟩ := List.mem_map.mp he
  exact ⟨canonical_canonical d.1, canonical_canonical d.2⟩

/-- **Canonical aliases are their own canonical form.** -/
theorem canonical_canonical (a : Aliases) : a.canonical.canonical = a.canonical := by
  have hsame : (a.canonical.entries.map fun e =>
      (KeyLayers.canonical e.1, KeyLayers.canonical e.2)) = a.canonical.entries := by
    rw [List.map_congr_left (g := id) fun e he => ?_, List.map_id]
    obtain ⟨hkey, hvalue⟩ := a.canonical_of_mem e he
    rw [hkey, hvalue]
    rfl
  rw [canonical, hsame, OrderedMap.ofList_entries]

end Aliases

/-- A chord reads the same under aliases and under their canonical forms. -/
theorem KeyPress.ofChord_canonical (keys modifiers : Aliases) (separator : String)
    (translate : Bool) (chord : String) :
    ofChord keys.canonical modifiers.canonical separator translate chord =
      ofChord keys modifiers separator translate chord := by
  simp only [ofChord, Aliases.canonical_canonical]

end KeyLayers
