import KeyLayers.Numeral.Reading
import Mathlib.Data.List.TakeWhile

/-!
# Decimal text and its digits

The decimal text of a number spells the number, and it is plain: it has digits
only, and starts with a zero only if the number is zero.  So a reader that takes
as many digits as there are, but only one if it is a zero, takes all of it.

## Main results

* `ofDigits?_digits` — the digits of a number spell it.
* `cutDigits_digits` — a reader of plain integers takes all of them.
-/

namespace KeyLayers.Numeral

theorem digits_of_lt {n : ℕ} (h : n < 10) : digits n = [Nat.digitChar n] := by
  rw [digits, if_pos h]

theorem digits_of_le {n : ℕ} (h : 10 ≤ n) :
    digits n = digits (n / 10) ++ [Nat.digitChar (n % 10)] := by
  rw [digits, if_neg (by omega)]

theorem digits_ne_nil (n : ℕ) : digits n ≠ [] := by
  by_cases h : n < 10
  · simp [digits_of_lt h]
  · simp [digits_of_le (not_lt.mp h)]

theorem isDigit_digitChar {d : ℕ} (h : d < 10) : (Nat.digitChar d).isDigit = true := by
  revert d
  decide

theorem digitChar_ne_zero {d : ℕ} (h : d < 10) (hpos : 0 < d) : Nat.digitChar d ≠ '0' := by
  revert d
  decide

theorem digitValue?_digitChar {d : ℕ} (h : d < 10) : digitValue? 10 (Nat.digitChar d) = some d := by
  revert d
  decide

theorem isDigit_of_mem_digits {n : ℕ} {c : Char} (h : c ∈ digits n) : c.isDigit = true := by
  induction n using Nat.strong_induction_on with
  | _ n ih =>
    by_cases hn : n < 10
    · rw [digits_of_lt hn, List.mem_singleton] at h
      rw [h]
      exact isDigit_digitChar hn
    · rw [digits_of_le (not_lt.mp hn), List.mem_append, List.mem_singleton] at h
      rcases h with h | rfl
      · exact ih (n / 10) (by omega) h
      · exact isDigit_digitChar (by omega)

theorem ofDigitsFrom?_append (base acc : ℕ) (s t : List Char) :
    ofDigitsFrom? base acc (s ++ t) =
      (ofDigitsFrom? base acc s).bind fun n => ofDigitsFrom? base n t := by
  induction s generalizing acc with
  | nil => rfl
  | cons c s ih =>
    rw [List.cons_append, ofDigitsFrom?, ofDigitsFrom?, Option.bind_assoc]
    congr 1
    funext v
    exact ih _

theorem ofDigitsFrom?_digits (n : ℕ) : ofDigitsFrom? 10 0 (digits n) = some n := by
  induction n using Nat.strong_induction_on with
  | _ n ih =>
    by_cases hn : n < 10
    · simp [digits_of_lt hn, ofDigitsFrom?, digitValue?_digitChar hn]
    · have hvalue := digitValue?_digitChar (d := n % 10) (by omega)
      rw [digits_of_le (not_lt.mp hn), ofDigitsFrom?_append, ih (n / 10) (by omega)]
      simp only [Option.bind_some, ofDigitsFrom?, hvalue, Option.some.injEq]
      omega

/-- The digits of a number spell it. -/
theorem ofDigits?_digits (n : ℕ) : ofDigits? 10 (digits n) = some n := by
  rw [ofDigits?, if_neg (by simpa using digits_ne_nil n), ofDigitsFrom?_digits]

theorem head?_digits {n : ℕ} (h : 0 < n) : (digits n).head? ≠ some '0' := by
  induction n using Nat.strong_induction_on with
  | _ n ih =>
    by_cases hn : n < 10
    · simpa [digits_of_lt hn] using digitChar_ne_zero hn h
    · -- the last digit is not the first one
      obtain ⟨c, ds, hds⟩ := List.exists_cons_of_ne_nil (digits_ne_nil (n / 10))
      have hhead := ih (n / 10) (by omega) (by omega)
      rw [digits_of_le (not_lt.mp hn), hds]
      simpa [hds] using hhead

/-- A reader of plain integers takes all digits of a number. -/
theorem cutDigits_digits (n : ℕ) : cutDigits (digits n) = (digits n, []) := by
  rcases Nat.eq_zero_or_pos n with rfl | hn
  · rw [digits_of_lt (by decide)]
    rfl
  · have hhead := head?_digits hn
    have hdigits : ∀ c ∈ digits n, c.isDigit = true := fun c => isDigit_of_mem_digits
    unfold cutDigits
    split
    · rename_i heq
      simp [heq] at hhead
    · rw [List.takeWhile_eq_self_iff.mpr hdigits, List.dropWhile_eq_nil_iff.mpr hdigits]

/-- It takes a minus sign for none of them. -/
theorem cutMinus_digits (n : ℕ) : cutMinus (digits n) = ([], digits n) := by
  unfold cutMinus
  split
  · rename_i heq
    have := isDigit_of_mem_digits (n := n) (c := '-') (by simp [heq])
    exact absurd this (by decide)
  · rfl

end KeyLayers.Numeral
