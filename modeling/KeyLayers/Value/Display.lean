import KeyLayers.Numeral.Shortest
import KeyLayers.Text.Quoted
import KeyLayers.Value.Basic

/-!
# Values as text

A value that stands where a text is wanted is turned into one; the words for nothing and for the
truth values start with a capital.  Moments are written in digits, the largest unit first.

## Main definitions

* `Moment.iso` — the text of a moment.
* `Value.floatFormat` — the written form of floating point numbers.
* `Value.shown` — a value inside a message: texts stand between quotes.
* `Value.display` — a value as a text: a text is itself.
* `Value.kindName` — the name of a value's kind in messages.
-/

namespace KeyLayers

open Numeral Text

/-- The decimal text of `n`, with leading zeros up to `width` digits. -/
def padded (width n : Nat) : List Char :=
  List.replicate (width - (digits n).length) '0' ++ digits n

/-- The text of a day. -/
def Date.iso (d : Date) : List Char :=
  padded 4 d.year ++ '-' :: padded 2 d.month ++ '-' :: padded 2 d.day

/-- The text of a time of day; the fraction has six digits and is left out if it is zero. -/
def TimeOfDay.iso (t : TimeOfDay) : List Char :=
  padded 2 t.hour ++ ':' :: padded 2 t.minute ++ ':' :: padded 2 t.second ++
    if t.micros = 0 then [] else '.' :: padded 6 t.micros

/-- The text of a distance from universal time in minutes. -/
def offsetIso (offset : Int) : List Char :=
  (if offset < 0 then '-' else '+') :: padded 2 (offset.natAbs / 60)
    ++ ':' :: padded 2 (offset.natAbs % 60)

/-- The text of a moment. -/
def Moment.iso : Moment → List Char
  | .date d => d.iso
  | .time t => t.iso
  | .datetime d t offset => d.iso ++ 'T' :: t.iso ++ (offset.map offsetIso).getD []

namespace Value

/-- Numbers from 0.0001 up to 10 ^ 16 are written without a power of ten; a power has a sign and at
least two digits. -/
def floatFormat : FloatFormat where
  leastPositional := -4
  firstScientific := 16
  exponentDigits := 2
  infinityText := "inf"
  nanText := "nan"

/-- The number nearest to a hundred thousandth is written with a power of ten. -/
example : binaryChars floatFormat (.finite false 5902958103587057 (-69)) = "1e-05".toList := by
  decide +kernel

/-- A zero keeps its sign. -/
example : binaryChars floatFormat (.finite true 0 (-1074)) = "-0.0".toList := by decide +kernel

/-- The number 10 ^ 16 is the first that is written with a power of ten. -/
example : binaryChars floatFormat (.finite false 5000000000000000 1) = "1e+16".toList := by
  decide +kernel

/-- The number nearest to a tenth is written as a tenth. -/
example : binaryChars floatFormat (.finite false 7205759403792794 (-56)) = "0.1".toList := by
  decide +kernel

mutual

/-- A value inside a message. -/
def shown : Value → List Char
  | .null => "None".toList
  | .bool b => (if b then "True" else "False").toList
  | .int n => intDigits n
  | .float x => floatChars floatFormat x
  | .text s => quotedChars s.toList
  | .moment m => m.iso
  | .list [] => "[]".toList
  | .list (v :: vs) => '[' :: shown v ++ shownItems vs ++ [']']
  | .map [] => ['\x7b', '\x7d']
  | .map ((k, v) :: es) =>
    '\x7b' :: quotedChars k.toList ++ ':' :: ' ' :: shown v ++ shownEntries es ++ ['\x7d']

/-- The further items of a list inside a message. -/
def shownItems : List Value → List Char
  | [] => []
  | v :: vs => ',' :: ' ' :: shown v ++ shownItems vs

/-- The further entries of a mapping inside a message. -/
def shownEntries : List (String × Value) → List Char
  | [] => []
  | (k, v) :: es =>
    ',' :: ' ' :: quotedChars k.toList ++ ':' :: ' ' :: shown v ++ shownEntries es

end

/-- A value as a text. -/
def display : Value → String
  | .text s => s
  | v => String.ofList (shown v)

/-- The name of a value's kind. -/
def kindName : Value → String
  | .null => "NoneType"
  | .bool _ => "bool"
  | .int _ => "int"
  | .float _ => "float"
  | .text _ => "str"
  | .moment (.date _) => "date"
  | .moment (.time _) => "time"
  | .moment (.datetime ..) => "datetime"
  | .list _ => "list"
  | .map _ => "dict"

end Value

end KeyLayers
