import KeyLayers.Numeral.FloatReading
import KeyLayers.Toml.Fault
import KeyLayers.Toml.Lexeme
import KeyLayers.Value.Basic

/-!
# TOML: numbers and moments

Numbers may have single low lines between their digits.  Integers may be written in base sixteen,
eight or two; a decimal one has `digitLimit` digits at most.  A moment is a day, a time of day, or a
day followed by a time of day and perhaps its distance from universal time; a fraction of a second
is cut after six digits.

## Main definitions

* `Decimal`, `Decimal.value` — a decimal number as it is written, and what it spells.
* `number` — an integer or a floating point number.
* `moment` — a day, a time of day, or both.
-/

namespace KeyLayers.Toml

open Numeral

/-- Whether a character is a decimal digit. -/
def isDigit (c : Char) : Bool := '0' ≤ c && c ≤ '9'

/-- The longest run of digits at the start of a text, which may have single low lines between them;
a low line may also come first if `afterDigit` holds.  The low lines are left out. -/
def digitRun (p : Char → Bool) : (afterDigit : Bool) → List Char → List Char × List Char
  | afterDigit, '_' :: c :: s =>
    if afterDigit && p c then
      let run := digitRun p true s
      (c :: run.1, run.2)
    else ([], '_' :: c :: s)
  | _, c :: s =>
    if p c then
      let run := digitRun p true s
      (c :: run.1, run.2)
    else ([], c :: s)
  | _, [] => ([], [])

/-- A sign at the start of a text: whether it is a minus, and the rest. -/
def sign : List Char → Bool × List Char
  | '-' :: s => (true, s)
  | '+' :: s => (false, s)
  | s => (false, s)

/-- An integer in another base, after the letter for the base. -/
def basedNumber (base : Nat) (s : List Char) : Reading Value :=
  let (ds, rest) := digitRun (fun c => (digitValue? base c).isSome) false s
  (ofDigits? base ds).map fun n => (.int n, rest)

/-- The digits before the point: a zero alone, or digits that start with another one. -/
def wholeDigits : List Char → Option (List Char × List Char)
  | '0' :: s => some (['0'], s)
  | s =>
    let (ds, rest) := digitRun isDigit false s
    if ds.isEmpty then none else some (ds, rest)

/-- The digits behind the point, if there is a point with a digit behind it. -/
def fractionDigits : List Char → List Char × List Char
  | '.' :: s =>
    let (ds, rest) := digitRun isDigit false s
    if ds.isEmpty then ([], '.' :: s) else (ds, rest)
  | s => ([], s)

/-- The power of ten, if there is an `e` with a digit behind it and its sign. -/
def powerDigits : List Char → Option Int × List Char
  | c :: s =>
    if c = 'e' ∨ c = 'E' then
      let (negative, digitsAndRest) := sign s
      let (ds, rest) := digitRun isDigit false digitsAndRest
      match ofDigits? 10 ds with
      | some n => (some (if negative then -Int.ofNat n else Int.ofNat n), rest)
      | none => (none, c :: s)
    else (none, c :: s)
  | [] => (none, [])

/-- A decimal number as it is written, without its low lines. -/
structure Decimal where
  /-- Whether there is a minus sign. -/
  negative : Bool
  /-- The digits before the point. -/
  whole : List Char
  /-- The digits behind the point, if there are any. -/
  fraction : List Char
  /-- The power of ten, if there is one. -/
  power : Option Int

/-- A decimal number at the start of a text. -/
def decimal (s : List Char) : Reading Decimal :=
  let (negative, s) := sign s
  (wholeDigits s).map fun (whole, s) =>
    let (fraction, s) := fractionDigits s
    let (power, s) := powerDigits s
    (⟨negative, whole, fraction, power⟩, s)

/-- What a decimal number spells: an integer, unless there is a fraction or a power of ten. -/
def Decimal.value (d : Decimal) : Except Fault Value :=
  if d.fraction.isEmpty && d.power.isNone then
    if digitLimit < d.whole.length then .error (.tooLong d.whole.length)
    else
      orMalformed <| (ofDigits? 10 d.whole).map fun n =>
        .int (if d.negative then -Int.ofNat n else Int.ofNat n)
  else
    orMalformed <| (floatOfParts? d.negative d.whole d.fraction (d.power.getD 0)).map .float

/-- A number that has a name. -/
def namedNumber (s : List Char) : Reading Value :=
  let (negative, s) := sign s
  match s with
  | 'i' :: 'n' :: 'f' :: s => some (.float (infinity negative), s)
  | 'n' :: 'a' :: 'n' :: s => some (.float notANumber, s)
  | _ => none

/-- A number. -/
def number (s : List Char) : Parsing Value :=
  let based :=
    match s with
    | '0' :: 'x' :: s => basedNumber 16 s
    | '0' :: 'o' :: s => basedNumber 8 s
    | '0' :: 'b' :: s => basedNumber 2 s
    | _ => none
  match based, decimal s with
  | some p, _ => .ok p
  | none, some (d, rest) => d.value.map fun v => (v, rest)
  | none, none => orMalformed (namedNumber s)

/-- Two digits that spell a number between two bounds. -/
def twoDigits (least greatest : Nat) : List Char → Reading Nat
  | a :: b :: s =>
    if isDigit a && isDigit b then
      (ofDigits? 10 [a, b]).bind fun n =>
        if least ≤ n ∧ n ≤ greatest then some (n, s) else none
    else none
  | _ => none

/-- A given character. -/
def expect (c : Char) : List Char → Option (List Char)
  | d :: s => if d = c then some s else none
  | [] => none

/-- The days of a month. -/
def daysIn (year month : Nat) : Nat :=
  if month = 2 then
    if year % 4 = 0 ∧ (year % 100 ≠ 0 ∨ year % 400 = 0) then 29 else 28
  else if month = 4 ∨ month = 6 ∨ month = 9 ∨ month = 11 then 30
  else 31

/-- Whether the calendar has a day.  It starts with the year 1. -/
def Date.inCalendar (d : Date) : Bool := 1 ≤ d.year && d.day ≤ daysIn d.year d.month

/-- The digits of a day. -/
def day (s : List Char) : Option (Date × List Char) := do
  let (century, s) ← twoDigits 0 99 s
  let (year, s) ← twoDigits 0 99 s
  let (month, s) ← twoDigits 1 12 (← expect '-' s)
  let (day, s) ← twoDigits 1 31 (← expect '-' s)
  return (⟨century * 100 + year, month, day⟩, s)

/-- The millionths that a fraction of a second has, cut after six digits. -/
def micros (ds : List Char) : Nat :=
  (ofDigits? 10 ((ds ++ List.replicate 6 '0').take 6)).getD 0

/-- A time of day. -/
def timeOfDay (s : List Char) : Option (TimeOfDay × List Char) := do
  let (hour, s) ← twoDigits 0 23 s
  let (minute, s) ← twoDigits 0 59 (← expect ':' s)
  let (second, s) ← twoDigits 0 59 (← expect ':' s)
  match s with
  | '.' :: c :: s =>
    if isDigit c then
      return (⟨hour, minute, second, micros (c :: s.takeWhile isDigit)⟩, s.dropWhile isDigit)
    else return (⟨hour, minute, second, 0⟩, '.' :: c :: s)
  | s => return (⟨hour, minute, second, 0⟩, s)

/-- A distance from universal time in minutes with a sign. -/
def signedOffset (negative : Bool) (s : List Char) : Option (Int × List Char) := do
  let (hour, s) ← twoDigits 0 23 s
  let (minute, s) ← twoDigits 0 59 (← expect ':' s)
  let minutes := Int.ofNat (hour * 60 + minute)
  return (if negative then -minutes else minutes, s)

/-- The distance from universal time, if there is one. -/
def offset : List Char → Option Int × List Char
  | 'Z' :: s => (some 0, s)
  | 'z' :: s => (some 0, s)
  | '+' :: s => ((signedOffset false s).map fun p => (some p.1, p.2)).getD (none, '+' :: s)
  | '-' :: s => ((signedOffset true s).map fun p => (some p.1, p.2)).getD (none, '-' :: s)
  | s => (none, s)

/-- The time behind a day, if there is one. -/
def timeBehind : List Char → Reading TimeOfDay
  | c :: s => if c = 'T' ∨ c = 't' ∨ c = ' ' then timeOfDay s else none
  | [] => none

/-- A day or a time of day, or both.  `none` if the text starts with neither. -/
def moment (s : List Char) : Reading Moment :=
  match day s with
  | some (d, rest) =>
    match timeBehind rest with
    | some (t, rest) => some (.datetime d t (offset rest).1, (offset rest).2)
    | none => some (.date d, rest)
  | none => (timeOfDay s).map fun p => (.time p.1, p.2)

/-- Whether the calendar has the day of a moment. -/
def Moment.inCalendar : Moment → Bool
  | .date d => Date.inCalendar d
  | .datetime d _ _ => Date.inCalendar d
  | .time _ => true

end KeyLayers.Toml
