/-!
# Binary floating point numbers

A finite number of the 64-bit format is an integer times a power of two.  Here such numbers are
taken apart and put together exactly, so that everything that is said about them can be said about
integers.

## Main definitions

* `Binary64` — a number taken apart: not a number, an infinity, or `± mantissa · 2 ^ exponent`.
* `Binary64.ofFloat` — the parts of a number.
* `nearestFloat` — the number nearest to a quotient, of two nearest the even one.
* `floatOfDecimal` — the number nearest to `mantissa · 10 ^ exponent`.
-/

namespace KeyLayers.Numeral

/-- A number of the 64-bit format taken apart. -/
inductive Binary64
  /-- Not a number. -/
  | nan
  /-- An infinity. -/
  | infinite (negative : Bool)
  /-- The number `mantissa · 2 ^ exponent` with a sign; zero has one, too. -/
  | finite (negative : Bool) (mantissa : Nat) (exponent : Int)
  deriving DecidableEq, Repr

/-- The parts of the number with the given 64 bits: a sign, 11 bits of exponent, 52 of mantissa. -/
def Binary64.ofBits (bits : Nat) : Binary64 :=
  let negative := bits / Nat.pow 2 63 % 2 == 1
  let field : Nat := bits / Nat.pow 2 52 % Nat.pow 2 11
  let fraction : Nat := bits % Nat.pow 2 52
  if field = Nat.pow 2 11 - 1 then
    if fraction = 0 then .infinite negative else .nan
  else if field = 0 then .finite negative fraction (-1074)
  else .finite negative (Nat.pow 2 52 + fraction) ((field : Int) - 1075)

/-- The parts of a number. -/
def Binary64.ofFloat (x : Float) : Binary64 := .ofBits x.toBits.toNat

/-- `num / den` rounded to an integer, a half to the even neighbour. -/
def roundHalfEven (num den : Nat) : Nat :=
  let q := num / den
  let r := num % den
  if 2 * r < den then q
  else if den < 2 * r then q + 1
  else if q % 2 = 0 then q else q + 1

/-- `num · 2 ^ shift / den`, as a quotient of natural numbers. -/
def scaled (num den : Nat) (shift : Int) : Nat × Nat :=
  if 0 ≤ shift then (num * Nat.pow 2 shift.toNat, den) else (num, den * Nat.pow 2 (-shift).toNat)

/-- The bits of an infinity without its sign. -/
def infinityBits : Nat := (Nat.pow 2 11 - 1) * Nat.pow 2 52

/-- The exponent of the unit in the last place next to `num / den`: 53 bits stand before it, unless
that would be below the smallest exponent of the format. -/
def lastPlace (num den : Nat) : Int :=
  let guess : Int := (num.log2 : Int) - (den.log2 : Int) - 52
  let (n, d) := scaled num den (-guess)
  let exact := if n < Nat.pow 2 52 * d then guess - 1 else guess
  max exact (-1074)

/-- The bits, without a sign, of the number nearest to `num / den`.  Mantissa and exponent share one
carry: a mantissa that rounds up to 2 ^ 53 moves into the next exponent by itself. -/
def nearestBits (num den : Nat) : Nat :=
  if num = 0 then 0
  else
    let e := lastPlace num den
    let (n, d) := scaled num den (-e)
    min ((e + 1074).toNat * Nat.pow 2 52 + roundHalfEven n d) infinityBits

/-- The number nearest to `num / den` with the given sign. -/
def nearestFloat (negative : Bool) (num den : Nat) : Float :=
  Float.ofBits (UInt64.ofNat ((if negative then Nat.pow 2 63 else 0) + nearestBits num den))

/-- The number nearest to `mantissa · 10 ^ exponent` with the given sign.  Beyond 10 ^ 400 every
number is infinite and below 10 ^ -400 zero, so that no greater power is computed. -/
def floatOfDecimal (negative : Bool) (mantissa : Nat) (exponent : Int) : Float :=
  let top : Int := (mantissa.log2 : Int) * 30103 / 100000 + exponent
  if mantissa = 0 ∨ top < -400 then nearestFloat negative 0 1
  else if 400 < top then nearestFloat negative (Nat.pow 10 400) 1
  else if 0 ≤ exponent then nearestFloat negative (mantissa * Nat.pow 10 exponent.toNat) 1
  else nearestFloat negative mantissa (Nat.pow 10 (-exponent).toNat)

/-- An infinity. -/
def infinity (negative : Bool) : Float :=
  Float.ofBits (UInt64.ofNat ((if negative then Nat.pow 2 63 else 0) + infinityBits))

/-- Not a number. -/
def notANumber : Float := Float.ofBits (UInt64.ofNat (infinityBits + Nat.pow 2 51))

end KeyLayers.Numeral
