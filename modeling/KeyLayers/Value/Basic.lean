/-!
# Value trees

A description and a compiled model are both trees of values before they are anything else: what a
reader of a text file hands over, what a schema checks, and what a printer writes.

## Main definitions

* `Date`, `TimeOfDay`, `Moment` — the parts of calendar and clock.
* `Value` — value trees.
-/

namespace KeyLayers

/-- A day of the calendar. -/
structure Date where
  /-- The year. -/
  year : Nat
  /-- The month, from 1. -/
  month : Nat
  /-- The day of the month, from 1. -/
  day : Nat
  deriving DecidableEq, Repr

/-- A time of day. -/
structure TimeOfDay where
  /-- The hour. -/
  hour : Nat
  /-- The minute. -/
  minute : Nat
  /-- The second. -/
  second : Nat
  /-- The millionths of a second. -/
  micros : Nat
  deriving DecidableEq, Repr

/-- A day, a time of day, or both, then maybe with the distance from universal time in minutes. -/
inductive Moment
  /-- A day. -/
  | date (d : Date)
  /-- A time of day. -/
  | time (t : TimeOfDay)
  /-- A time on a day. -/
  | datetime (d : Date) (t : TimeOfDay) (offset : Option Int)
  deriving DecidableEq, Repr

/-- A value tree.  The entries of a mapping are in order. -/
inductive Value
  /-- Nothing. -/
  | null
  /-- A truth value. -/
  | bool (b : Bool)
  /-- An integer of any size. -/
  | int (n : Int)
  /-- A floating point number. -/
  | float (x : Float)
  /-- A text. -/
  | text (s : String)
  /-- A day or a time. -/
  | moment (m : Moment)
  /-- A list. -/
  | list (items : List Value)
  /-- A mapping. -/
  | map (entries : List (String × Value))
  deriving Inhabited

/-- Whether a value is nothing. -/
def Value.isNull : Value → Bool
  | .null => true
  | _ => false

@[simp] theorem Value.isNull_null : Value.null.isNull = true := rfl

@[simp] theorem Value.isNull_bool (b : Bool) : (Value.bool b).isNull = false := rfl

@[simp] theorem Value.isNull_int (n : Int) : (Value.int n).isNull = false := rfl

@[simp] theorem Value.isNull_text (s : String) : (Value.text s).isNull = false := rfl

@[simp] theorem Value.isNull_list (l : List Value) : (Value.list l).isNull = false := rfl

@[simp] theorem Value.isNull_map (es : List (String × Value)) : (Value.map es).isNull = false := rfl

end KeyLayers
