import Mathlib.Data.Nat.Notation
import Mathlib.Tactic.SplitIfs
import KeyLayers.Text.Blank
import KeyLayers.Text.Lowercase

/-!
# Small letters stay small

Lower-casing a text a second time changes nothing.  For the two letters that the
table leaves out this is read off their forms.  For the table it is a fact about
pairs of runs: the small letters of one run, an interval that may leave out every
other code point, never meet the capitals of another.  That fact, and that the
small letters stay clear of the blanks and of codes that are no characters, is
checked run by run.

## Main definitions

* `CaseRun.apart` — the check that no small letter of a run is a capital of another.
* `IsSmall` — the characters that lower-casing leaves alone.

## Main results

* `isSmall_of_mem_lower` — lower-casing gives such characters only.
* `lower_lower` — lower-casing is idempotent.
* `isBlank_of_mem_lowerChar` — no blank comes out of a letter.
* `mem_of_mem_lowerAfter` — nor does any other character that is no small letter.
-/

namespace KeyLayers.Text

/-! ### The runs of the table -/

/-- The small letter of the last capital of a run. -/
def CaseRun.smallLast (r : CaseRun) : ℕ := r.small + (r.last - r.first)

/-- The small letters of `r` and the capitals of `q` lie apart, as intervals or because of two
interleaved runs one holds the even and the other the odd code points. -/
def CaseRun.apart (r q : CaseRun) : Bool :=
  Nat.blt r.smallLast q.first || Nat.blt q.last r.small ||
    ((r.first == r.last || r.step == 2) && q.step == 2 && (r.small + q.first) % 2 == 1)

/-- The code points that are no small letter of any run: the blanks, the two letters that the
table leaves out, and the surrogates. -/
def unusedRanges : List (ℕ × ℕ) :=
  (0x1C, 0x1F) :: spaceRanges ++ [(0x130, 0x130), (0x3A3, 0x3A3), (0xD800, 0xDFFF)]

theorem apart_capitalRuns :
    (capitalRuns.all fun r => capitalRuns.all fun q => r.apart q) = true := by
  decide +kernel

theorem unused_capitalRuns : (capitalRuns.all fun r => Nat.blt r.smallLast 0x110000 &&
    unusedRanges.all fun q => Nat.blt r.smallLast q.1 || Nat.blt q.2 r.small) = true := by
  decide +kernel

namespace CaseRun

variable {r q : CaseRun} {c : ℕ}

theorem covers_iff : r.covers c ↔ (r.first ≤ c ∧ c ≤ r.last) ∧ (c - r.first) % r.step = 0 := by
  simp [covers]

theorem lower_bounds (h : r.covers c) : r.small ≤ r.lower c ∧ r.lower c ≤ r.smallLast := by
  rw [covers_iff] at h
  unfold lower smallLast
  omega

/-- Runs that lie apart share no code point. -/
theorem not_covers_of_apart (h : r.apart q) (hc : r.covers c) : ¬ q.covers (r.lower c) := by
  intro hq
  obtain ⟨hlow, hhigh⟩ := lower_bounds hc
  rw [covers_iff] at hc hq
  simp only [apart, Bool.or_eq_true, Bool.and_eq_true, Nat.blt_eq, beq_iff_eq] at h
  rcases h with (h | h) | ⟨⟨hstep, htwo⟩, hodd⟩
  · omega
  · omega
  · -- the distance of the small letter from the first one is even, and so is that of a
    -- capital of `q` from the first capital of `q`
    have heven : (c - r.first) % 2 = 0 := by
      rcases hstep with hone | hstep
      · omega
      · rw [hstep] at hc
        exact hc.2
    rw [htwo] at hq
    unfold lower at hq
    omega

end CaseRun

/-! ### Codes -/

/-- Either the table leaves a code alone, or a run of the table covers it. -/
theorem lowerCode_cases (c : ℕ) :
    (lowerCode c = c ∧ ∀ r ∈ capitalRuns, ¬ r.covers c) ∨
      ∃ r ∈ capitalRuns, r.covers c ∧ lowerCode c = r.lower c := by
  unfold lowerCode
  cases h : capitalRuns.find? (·.covers c) with
  | none => exact Or.inl ⟨rfl, fun r hr => List.find?_eq_none.mp h r hr⟩
  | some r =>
    have hcover : r.covers c := List.find?_some (p := fun q : CaseRun => q.covers c) h
    exact Or.inr ⟨r, List.mem_of_find?_eq_some h, hcover, rfl⟩

/-- A small letter is not a capital. -/
theorem lowerCode_lower {r : CaseRun} (hr : r ∈ capitalRuns) {c : ℕ} (hc : r.covers c) :
    lowerCode (r.lower c) = r.lower c := by
  rcases lowerCode_cases (r.lower c) with ⟨h, -⟩ | ⟨q, hq, hcover, -⟩
  · exact h
  · have hall := List.all_eq_true.mp (List.all_eq_true.mp apart_capitalRuns r hr) q hq
    exact absurd hcover (CaseRun.not_covers_of_apart hall hc)

/-- A small letter is not one of the unused code points. -/
theorem not_unused_lower {r : CaseRun} (hr : r ∈ capitalRuns) {c : ℕ} (hc : r.covers c) :
    r.lower c < 0x110000 ∧ ∀ q ∈ unusedRanges, ¬ (q.1 ≤ r.lower c ∧ r.lower c ≤ q.2) := by
  obtain ⟨hlow, hhigh⟩ := CaseRun.lower_bounds hc
  have hrun := List.all_eq_true.mp unused_capitalRuns r hr
  simp only [Bool.and_eq_true, Nat.blt_eq, List.all_eq_true, Bool.or_eq_true] at hrun
  refine ⟨by omega, fun q hq hin => ?_⟩
  rcases hrun.2 q hq with h | h <;> omega

/-! ### Characters -/

/-- The characters that lower-casing leaves alone. -/
structure IsSmall (c : Char) : Prop where
  /-- It is not the capital sigma. -/
  ne_sigma : c ≠ capitalSigma
  /-- It is not the dotted capital I. -/
  ne_dottedI : c ≠ dottedI
  /-- The table does not change it. -/
  lowerCode_eq : lowerCode c.toNat = c.toNat

theorem lowerChar_of_isSmall {c : Char} (h : IsSmall c) (before after : List Char) :
    lowerChar before c after = [c] := by
  rw [lowerChar, if_neg h.ne_sigma, if_neg h.ne_dottedI, h.lowerCode_eq, Char.ofNat_toNat]

/-- The small letter that a run gives, as a character. -/
theorem toNat_ofNat_lower {r : CaseRun} (hr : r ∈ capitalRuns) {c : ℕ} (hc : r.covers c) :
    (Char.ofNat (r.lower c)).toNat = r.lower c := by
  obtain ⟨hmax, hunused⟩ := not_unused_lower hr hc
  have hsurrogate := hunused (0xD800, 0xDFFF) (by simp [unusedRanges])
  have hvalid : (r.lower c).isValidChar := by
    unfold Nat.isValidChar
    omega
  rw [Char.ofNat, dif_pos hvalid]
  rfl

theorem isSmall_ofNat_lower {r : CaseRun} (hr : r ∈ capitalRuns) {c : ℕ} (hc : r.covers c) :
    IsSmall (Char.ofNat (r.lower c)) := by
  obtain ⟨-, hunused⟩ := not_unused_lower hr hc
  have hcode := toNat_ofNat_lower hr hc
  refine ⟨?_, ?_, ?_⟩
  · intro h
    have hsigma : r.lower c = 0x3A3 := by rw [← hcode, h]; rfl
    exact hunused (0x3A3, 0x3A3) (by simp [unusedRanges]) (by omega)
  · intro h
    have hdotted : r.lower c = 0x130 := by rw [← hcode, h]; rfl
    exact hunused (0x130, 0x130) (by simp [unusedRanges]) (by omega)
  · rw [hcode, lowerCode_lower hr hc]

/-- The characters that the two letters outside the table become. -/
def exceptionForms : List Char := ['ς', 'σ', 'i', '\u0307']

/-- What becomes of a character, by where its lower-case form comes from. -/
theorem lowerChar_cases {before after : List Char} {c d : Char}
    (h : d ∈ lowerChar before c after) :
    d ∈ exceptionForms ∨ (d = c ∧ IsSmall c) ∨
      ∃ r ∈ capitalRuns, r.covers c.toNat ∧ d = Char.ofNat (r.lower c.toNat) := by
  unfold lowerChar at h
  split at h
  · left
    split at h <;> simp_all [exceptionForms]
  · next hsigma =>
    split at h
    · left
      simp_all [exceptionForms]
    · next hdotted =>
      right
      obtain rfl := List.mem_singleton.mp h
      rcases lowerCode_cases c.toNat with ⟨hsame, -⟩ | ⟨r, hr, hcover, hlower⟩
      · left
        rw [hsame, Char.ofNat_toNat]
        exact ⟨rfl, hsigma, hdotted, hsame⟩
      · right
        exact ⟨r, hr, hcover, by rw [hlower]⟩

theorem isSmall_of_mem_lowerChar {before after : List Char} {c d : Char}
    (h : d ∈ lowerChar before c after) : IsSmall d := by
  rcases lowerChar_cases h with h | ⟨rfl, hsmall⟩ | ⟨r, hr, hcover, rfl⟩
  · have hfew : (exceptionForms.all fun e =>
        e != capitalSigma && e != dottedI && lowerCode e.toNat == e.toNat) = true := by
      decide +kernel
    have hd := List.all_eq_true.mp hfew d h
    simp only [Bool.and_eq_true, bne_iff_ne, beq_iff_eq] at hd
    exact ⟨hd.1.1, hd.1.2, hd.2⟩
  · exact hsmall
  · exact isSmall_ofNat_lower hr hcover

/-- A blank comes only from a blank. -/
theorem isBlank_of_mem_lowerChar {before after : List Char} {c d : Char}
    (h : d ∈ lowerChar before c after) (hd : isBlank d) : isBlank c := by
  rcases lowerChar_cases h with h | ⟨rfl, -⟩ | ⟨r, hr, hcover, rfl⟩
  · have hfew : (exceptionForms.all fun e => !isBlank e) = true := by decide +kernel
    have hnot := List.all_eq_true.mp hfew d h
    rw [hd] at hnot
    cases hnot
  · exact hd
  · -- the blanks are among the unused code points
    obtain ⟨q, hq, hin⟩ := inRanges_iff.mp hd
    rw [toNat_ofNat_lower hr hcover] at hin
    exact absurd hin ((not_unused_lower hr hcover).2 q (List.mem_append_left _ hq))

/-- Whether a character is none that lower-casing makes of another one. -/
def isNoSmallLetter (d : Char) : Bool :=
  !exceptionForms.contains d &&
    capitalRuns.all fun r => Nat.blt d.toNat r.small || Nat.blt r.smallLast d.toNat

/-- A character that is no small letter comes only from itself. -/
theorem eq_of_mem_lowerChar {before after : List Char} {c d : Char} (hd : isNoSmallLetter d)
    (h : d ∈ lowerChar before c after) : d = c := by
  simp only [isNoSmallLetter, Bool.and_eq_true, Bool.not_eq_true', List.all_eq_true,
    Bool.or_eq_true, Nat.blt_eq] at hd
  obtain ⟨hexception, hruns⟩ := hd
  rcases lowerChar_cases h with h | ⟨rfl, -⟩ | ⟨r, hr, hcover, rfl⟩
  · rw [List.contains_iff_mem.mpr h] at hexception
    cases hexception
  · rfl
  · -- the small letters of a run lie between its first and its last one
    have hapart := hruns r hr
    rw [toNat_ofNat_lower hr hcover] at hapart
    obtain ⟨hlow, hhigh⟩ := CaseRun.lower_bounds hcover
    omega

theorem lowerChar_ne_nil (before : List Char) (c : Char) (after : List Char) :
    lowerChar before c after ≠ [] := by
  unfold lowerChar
  split_ifs <;> simp

/-! ### Texts -/

theorem isSmall_of_mem_lowerAfter {s : List Char} : ∀ {before : List Char} {d : Char},
    d ∈ lowerAfter before s → IsSmall d := by
  induction s with
  | nil => intro before d h; simp [lowerAfter] at h
  | cons c after ih =>
    intro before d h
    rw [lowerAfter, List.mem_append] at h
    rcases h with h | h
    · exact isSmall_of_mem_lowerChar h
    · exact ih h

/-- **Lower-casing gives characters that it leaves alone.** -/
theorem isSmall_of_mem_lower {s : List Char} {d : Char} (h : d ∈ lower s) : IsSmall d :=
  isSmall_of_mem_lowerAfter h

/-- Lower-casing a text makes no character that is no small letter. -/
theorem mem_of_mem_lowerAfter {d : Char} (hd : isNoSmallLetter d) {s : List Char} :
    ∀ {before : List Char}, d ∈ lowerAfter before s → d ∈ s := by
  induction s with
  | nil => intro before h; simp [lowerAfter] at h
  | cons c after ih =>
    intro before h
    rw [lowerAfter, List.mem_append] at h
    rcases h with h | h
    · rw [eq_of_mem_lowerChar hd h]
      exact List.mem_cons_self
    · exact List.mem_cons_of_mem _ (ih h)

theorem lowerAfter_of_isSmall {s : List Char} (h : ∀ c ∈ s, IsSmall c) (before : List Char) :
    lowerAfter before s = s := by
  induction s generalizing before with
  | nil => rfl
  | cons c after ih =>
    have hafter : ∀ d ∈ after, IsSmall d := fun d hd => h d (List.mem_cons_of_mem _ hd)
    rw [lowerAfter, lowerChar_of_isSmall (h c List.mem_cons_self), ih hafter,
      List.singleton_append]

/-- **Lower-casing is idempotent.** -/
theorem lower_lower (s : List Char) : lower (lower s) = lower s :=
  lowerAfter_of_isSmall (fun _ h => isSmall_of_mem_lower h) []

end KeyLayers.Text
