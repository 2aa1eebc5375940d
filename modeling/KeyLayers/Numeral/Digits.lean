/-!
# Decimal digits

Numbers are written with the digits 0 to 9, without leading zeros, and with a minus sign if they are
negative.  Where people or programs exchange integers as decimal text, `digitLimit` bounds the count
of digits: the time that a conversion takes grows faster than the count, so that a longer text or
number is refused before it is converted.

## Main definitions

* `digits`, `intDigits` — the decimal text of a number.
* `ofDigits?` — the number that a text of digits spells.
* `digitLimit`, `boundedIntText?` — the bound, and the decimal text of an integer within it.
* `tooLongToRead`, `tooLongToShow` — the wordings of a refusal.
-/

namespace KeyLayers.Numeral

/-- The decimal text of a natural number. -/
def digits (n : Nat) : List Char :=
  if n < 10 then [Nat.digitChar n] else digits (n / 10) ++ [Nat.digitChar (n % 10)]
termination_by n
decreasing_by omega

/-- The decimal text of an integer. -/
def intDigits : Int → List Char
  | .ofNat n => digits n
  | .negSucc n => '-' :: digits (n + 1)

/-- The decimal text of a natural number. -/
def natText (n : Nat) : String := String.ofList (digits n)

/-- The decimal text of an integer. -/
def intText (i : Int) : String := String.ofList (intDigits i)

/-- The value of a digit in a base up to sixteen, in either case. -/
def digitValue? (base : Nat) (c : Char) : Option Nat :=
  let v :=
    if '0' ≤ c ∧ c ≤ '9' then c.toNat - '0'.toNat
    else if 'a' ≤ c ∧ c ≤ 'f' then c.toNat - 'a'.toNat + 10
    else if 'A' ≤ c ∧ c ≤ 'F' then c.toNat - 'A'.toNat + 10
    else base
  if v < base then some v else none

/-- The number that starts with the digits of `acc` and goes on with those of a text. -/
def ofDigitsFrom? (base : Nat) (acc : Nat) : List Char → Option Nat
  | [] => some acc
  | c :: s => (digitValue? base c).bind fun v => ofDigitsFrom? base (acc * base + v) s

/-- The number that a text of one or more digits spells. -/
def ofDigits? (base : Nat) (s : List Char) : Option Nat :=
  if s.isEmpty then none else ofDigitsFrom? base 0 s

/-- The greatest count of decimal digits that an integer is read or shown with. -/
def digitLimit : Nat := 4300

/-- The decimal text of an integer that has at most `digitLimit` digits. -/
def boundedIntText? (i : Int) : Option String :=
  if digitLimit < (digits i.natAbs).length then none else some (intText i)

/-- What has been exceeded by an integer with too many digits. -/
def exceededLimit : String :=
  s!"Exceeds the limit ({natText digitLimit} digits) for integer string conversion"

/-- What can be done about an integer with too many digits. -/
def limitAdvice : String := "use sys.set_int_max_str_digits() to increase the limit"

/-- Why a text of so many digits is not read. -/
def tooLongToRead (count : Nat) : String :=
  s!"{exceededLimit}: value has {natText count} digits; {limitAdvice}"

/-- Why an integer with too many digits is not shown. -/
def tooLongToShow : String := s!"{exceededLimit}; {limitAdvice}"

end KeyLayers.Numeral
