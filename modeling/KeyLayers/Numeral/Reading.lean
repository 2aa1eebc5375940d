import KeyLayers.Numeral.Digits
import KeyLayers.Text.Blank
import KeyLayers.Text.DigitTable

/-!
# Integers written by people

An integer may be surrounded by spaces, may carry one sign and leading zeros, and may have single
low lines between its digits.  On the command line the digits may be of any script.  Inside a
description they are the digits 0 to 9, and a fraction of zeros may follow.

In a description a text is read as it stands if it is *plain*: a minus sign or none, and digits that
start with a zero only if it is the only one.  Any other text is made plain first.  An integer with
more than `digitLimit` digits is refused in both places.  A description tells apart the integer that
is too long as it stands; one that only comes out as such is unreadable like any other text.

## Main definitions

* `argumentInteger?` — the reading of the command line.
* `groupedDigits?` — digits with single low lines between them.
* `fieldInteger` — the reading of a description.
* `plainInteger`, `undecorated?` — its two steps.
-/

namespace KeyLayers.Numeral

open Text

/-! ### On the command line -/

/-- The number spelt by `acc` and the digits of a text, between which single low lines may stand.
`afterDigit` says whether a digit comes before the text. -/
def groupedDigits? (digit? : Char → Option Nat) (acc : Nat) : (afterDigit : Bool) → List Char →
    Option Nat
  | true, [] => some acc
  | false, [] => none
  | afterDigit, c :: s =>
    if afterDigit ∧ c = '_' then groupedDigits? digit? acc false s
    else (digit? c).bind fun d => groupedDigits? digit? (acc * 10 + d) true s

/-- The integer spelt by an optional sign and what `unsigned?` reads. -/
def signed? (unsigned? : List Char → Option Nat) : List Char → Option Int
  | '+' :: s => (unsigned? s).map Int.ofNat
  | '-' :: s => (unsigned? s).map fun n => -Int.ofNat n
  | s => (unsigned? s).map Int.ofNat

/-- The integer that an argument of the command line spells.  Signs, blanks and low lines do not
count as digits, but leading zeros do. -/
def argumentInteger? (s : List Char) : Option Int :=
  if digitLimit < s.countP isDecimalDigit then none
  else signed? (groupedDigits? decimalDigit? 0 false) (trim isSpace s)

/-! ### In a description -/

/-- Why a text in a description is read as no integer. -/
inductive IntegerFault
  /-- It spells no integer. -/
  | unreadable
  /-- It starts as a plain integer that is too long. -/
  | tooLong
  deriving DecidableEq, Repr

/-- A minus sign at the start of a text, if there is one, and the rest. -/
def cutMinus : List Char → List Char × List Char
  | '-' :: s => (['-'], s)
  | s => ([], s)

/-- The digits of a plain integer at the start of a text, and the rest. -/
def cutDigits : List Char → List Char × List Char
  | '0' :: s => (['0'], s)
  | s => (s.takeWhile Char.isDigit, s.dropWhile Char.isDigit)

/-- The integer that a plain text spells.  The count of digits decides before it is known what
stands behind them. -/
def plainInteger (s : List Char) : Except IntegerFault Int :=
  let (sign, unsigned) := cutMinus s
  let (ds, rest) := cutDigits unsigned
  if digitLimit < ds.length then .error .tooLong
  else
    match rest, ofDigits? 10 ds with
    | [], some n => .ok (if sign.isEmpty then Int.ofNat n else -Int.ofNat n)
    | _, _ => .error .unreadable

/-- The text behind leading zeros of which the last character is `last`.  Low lines may stand
between and behind the zeros, however many, and a minus sign may stand behind them.  A single
character is left if nothing else follows, or a point. -/
def dropZerosBehind? (last : Char) : List Char → Option (List Char)
  | [] => some [last]
  | c :: s =>
    if c = '0' ∨ c = '_' then dropZerosBehind? c s
    else if c.isDigit ∨ c = '-' then some (c :: s)
    else if c = '.' then some (last :: c :: s)
    else none

/-- The text without leading zeros; `none` if it starts with neither a digit nor a minus sign. -/
def dropZeros? : List Char → Option (List Char)
  | [] => none
  | c :: s =>
    if c = '0' then dropZerosBehind? c s
    else if c.isDigit ∨ c = '-' then some (c :: s)
    else none

/-- The text without a fraction of zeros; `none` if there is another fraction. -/
def withoutZeroFraction? (s : List Char) : Option (List Char) :=
  match s.dropWhile (· ≠ '.') with
  | [] => some s
  | _ :: fraction =>
    if !fraction.isEmpty && fraction.all (· = '0') then some (s.takeWhile (· ≠ '.')) else none

/-- Whether each low line of a text stands alone and has a character on either side.  `afterLine`
says whether the text starts or a low line comes before it. -/
def hasSingleLines : (afterLine : Bool) → List Char → Bool
  | afterLine, [] => !afterLine
  | afterLine, c :: s => if c = '_' then !afterLine && hasSingleLines true s
    else hasSingleLines false s

/-- The text without low lines, if each of them stands alone between two characters. -/
def withoutLowLines (s : List Char) : List Char :=
  if hasSingleLines true s then s.filter (· ≠ '_') else s

/-- The text without spaces around it, a plus sign, leading zeros, a fraction of zeros and low lines
between digits.  `none` if what is left is certainly not plain. -/
def undecorated? (s : List Char) : Option (List Char) :=
  let unsigned? (s : List Char) : Option (List Char) :=
    (dropZeros? s).bind fun s => (withoutZeroFraction? s).map withoutLowLines
  match trim isSpace s with
  | '+' :: '-' :: _ => none
  | '+' :: s => unsigned? s
  | s => (unsigned? (cutMinus s).2).map ((cutMinus s).1 ++ ·)

/-- The integer that a text in a description spells. -/
def fieldInteger (s : List Char) : Except IntegerFault Int :=
  match plainInteger s, undecorated? s with
  | .error .unreadable, some s => (plainInteger s).mapError fun _ => .unreadable
  | r, _ => r

end KeyLayers.Numeral
