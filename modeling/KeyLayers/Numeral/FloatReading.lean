import KeyLayers.Numeral.Binary64
import KeyLayers.Numeral.Digits

/-!
# Decimals written by people

A decimal has digits before and maybe after a point and maybe a power of ten.  It is read as the
nearest floating point number.

## Main definitions

* `floatOfParts?` — the number that the parts of a decimal spell.
* `floatOfText?` — the number that a text spells; infinities and what is not a number have names.
-/

namespace KeyLayers.Numeral

/-- The number with the digits `whole` before the point and `fraction` after it, times ten to the
power of `exponent`. -/
def floatOfParts? (negative : Bool) (whole fraction : List Char) (exponent : Int) : Option Float :=
  (ofDigits? 10 (whole ++ fraction)).map fun mantissa =>
    floatOfDecimal negative mantissa (exponent - fraction.length)

/-- The power of ten that a text of digits with an optional sign spells; none means the power 0. -/
def exponentOfText? : List Char → Option Int
  | [] => some 0
  | '+' :: s => (ofDigits? 10 s).map Int.ofNat
  | '-' :: s => (ofDigits? 10 s).map fun n => -Int.ofNat n
  | s => (ofDigits? 10 s).map Int.ofNat

/-- The number that a text without a sign spells. -/
def unsignedFloatOfText? (negative : Bool) (s : List Char) : Option Float :=
  if s = "inf".toList then some (infinity negative)
  else if s = "nan".toList then some notANumber
  else
    let isPower (c : Char) : Bool := c == 'e' || c == 'E'
    let mantissa := s.takeWhile (!isPower ·)
    let whole := mantissa.takeWhile (· ≠ '.')
    let fraction := (mantissa.dropWhile (· ≠ '.')).drop 1
    (exponentOfText? ((s.dropWhile (!isPower ·)).drop 1)).bind
      (floatOfParts? negative whole fraction)

/-- The number that a text spells. -/
def floatOfText? : List Char → Option Float
  | '+' :: s => unsignedFloatOfText? false s
  | '-' :: s => unsignedFloatOfText? true s
  | s => unsignedFloatOfText? false s

end KeyLayers.Numeral
