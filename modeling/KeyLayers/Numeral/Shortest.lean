import KeyLayers.Numeral.Binary64
import KeyLayers.Numeral.Digits

/-!
# Shortest decimals

The text of a floating point number has the fewest digits that read back as the number; of two
decimals with that many digits it is the nearer one, and of two equally near ones the even one.

A decimal reads back if it lies in the interval of reals that round to the number.  The interval
reaches half-way to the neighbours and contains its ends if the mantissa is even.

## Main definitions

* `Interval` — the reals that round to a number, over a common denominator.
* `shortest` — the digits of a positive number and the place of the point.
* `FloatFormat`, `floatChars` — the written form.
-/

namespace KeyLayers.Numeral

/-- A number `value / den`, and the reals between `low / den` and `high / den` that round to it. -/
structure Interval where
  /-- The lower end. -/
  low : Nat
  /-- The number. -/
  value : Nat
  /-- The upper end. -/
  high : Nat
  /-- The common denominator. -/
  den : Nat
  /-- Whether the ends belong to the interval. -/
  closed : Bool

/-- The reals that round to `mantissa · 2 ^ exponent`.  Below a power of two, numbers lie twice as
close as above it, unless it is the smallest one of full width. -/
def Interval.ofBinary (mantissa : Nat) (exponent : Int) : Interval :=
  let below := if mantissa = Nat.pow 2 52 ∧ -1074 < exponent then 1 else 2
  let (unit, den) := scaled 1 4 exponent
  ⟨(4 * mantissa - below) * unit, 4 * mantissa * unit, (4 * mantissa + 2) * unit, den,
    mantissa % 2 == 0⟩

/-- Whether `num / den` of the interval's denominator scaled by `scale` lies in the interval. -/
def Interval.holds (i : Interval) (point scale : Nat) : Bool :=
  if i.closed then i.low * scale ≤ point * i.den && point * i.den ≤ i.high * scale
  else i.low * scale < point * i.den && point * i.den < i.high * scale

/-- The multiple `k` of `num / den` nearest to the number of the interval, if it lies in the
interval: of the two multiples next to the number, the nearer one that does. -/
def Interval.nearestMultiple? (i : Interval) (num den : Nat) : Option Nat :=
  let k := i.value * den / (i.den * num)
  let down := i.value * den - k * num * i.den
  let up := (k + 1) * num * i.den - i.value * den
  let lower := if i.holds (k * num) den then some k else none
  let upper := if i.holds ((k + 1) * num) den then some (k + 1) else none
  if down < up ∨ (down = up ∧ k % 2 = 0) then lower.or upper else upper.or lower

/-- The exponent of the first digit of `num / den`: the number lies between 10 to this power and 10
to the next. -/
def leadingExponent (num den : Nat) : Int :=
  if den ≤ num then ((digits (num / den)).length : Int) - 1
  else
    let k := (digits (den / num)).length
    if den ≤ num * Nat.pow 10 (k - 1) then -((k : Int) - 1) else -(k : Int)

/-- Ten to the power of `place`, as a quotient. -/
def powerOfTen (place : Int) : Nat × Nat :=
  if 0 ≤ place then (Nat.pow 10 place.toNat, 1) else (1, Nat.pow 10 (-place).toNat)

/-- The first of the grids with `count`, `count + 1`, … digits, `left` of them, that has a point in
the interval: the point and the exponent of its last digit. -/
def Interval.shortestFrom (i : Interval) (top : Int) : (left count : Nat) → Nat × Int
  | 0, _ => (i.value, 0)
  | left + 1, count =>
    let place := top - (count : Int) + 1
    let (num, den) := powerOfTen place
    match i.nearestMultiple? num den with
    | some k => (k, place)
    | none => i.shortestFrom top left (count + 1)

/-- The digits of the shortest decimal of a positive number, and the exponent of its first digit.
Seventeen digits always suffice. -/
def shortest (mantissa : Nat) (exponent : Int) : List Char × Int :=
  let i := Interval.ofBinary mantissa exponent
  let (k, place) := i.shortestFrom (leadingExponent i.value i.den) 17 1
  let all := digits k
  let kept := (all.reverse.dropWhile (· = '0')).reverse
  (kept, place + (all.length : Int) - 1)

/-- How floating point numbers are written. -/
structure FloatFormat where
  /-- The least exponent of the first digit that is written without a power of ten. -/
  leastPositional : Int
  /-- The first exponent that is written with a power of ten. -/
  firstScientific : Int
  /-- The least count of digits of a written exponent. -/
  exponentDigits : Nat
  /-- The text of an infinity without its sign. -/
  infinityText : String
  /-- The text of what is not a number. -/
  nanText : String

/-- The digits `ds`, of which the first stands for `exponent`, with a point and at least one digit
on each side of it. -/
def positional (ds : List Char) (exponent : Int) : List Char :=
  if exponent < 0 then
    '0' :: '.' :: List.replicate ((-exponent).toNat - 1) '0' ++ ds
  else
    let whole := exponent.toNat + 1
    let padded := ds ++ List.replicate (whole - ds.length) '0'
    let fraction := padded.drop whole
    padded.take whole ++ '.' :: (if fraction.isEmpty then ['0'] else fraction)

/-- The digits `ds`, of which the first stands for `exponent`, with a power of ten. -/
def scientific (format : FloatFormat) (ds : List Char) (exponent : Int) : List Char :=
  let power := digits exponent.natAbs
  let point := if ds.length ≤ 1 then [] else ['.']
  ds.take 1 ++ point ++ ds.drop 1 ++ 'e' :: (if exponent < 0 then '-' else '+')
    :: List.replicate (format.exponentDigits - power.length) '0' ++ power

/-- The written form of a number taken apart. -/
def binaryChars (format : FloatFormat) : Binary64 → List Char
  | .nan => format.nanText.toList
  | .infinite negative => (if negative then ['-'] else []) ++ format.infinityText.toList
  | .finite negative mantissa exponent =>
    let (ds, top) := if mantissa = 0 then (['0'], 0) else shortest mantissa exponent
    (if negative then ['-'] else []) ++
      if format.leastPositional ≤ top ∧ top < format.firstScientific then positional ds top
      else scientific format ds top

/-- The written form of a floating point number. -/
def floatChars (format : FloatFormat) (x : Float) : List Char :=
  binaryChars format (.ofFloat x)

end KeyLayers.Numeral
