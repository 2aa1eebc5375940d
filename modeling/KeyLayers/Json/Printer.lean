import KeyLayers.Numeral.Shortest
import KeyLayers.Value.Display

/-!
# JSON text

A value tree is written as JSON text, either without any space, or with one item a line, where each
level is indented by the same number of spaces.  Empty lists and mappings take no line of their own.

## Main definitions

* `Json.Indent` — compact text, or so many spaces for each level.
* `Json.Width` — the width that is asked for; not every number is one.
* `Json.escaped` — a text between double quotes.
* `Json.render` — the text of a value.
-/

namespace KeyLayers.Json

open Numeral

/-- How the text is laid out. -/
inductive Indent
  /-- All on one line, without spaces. -/
  | compact
  /-- One item a line, with `width` spaces for each level. -/
  | spaces (width : Nat)
  deriving DecidableEq, Repr

/-- The width of a level that is asked for. -/
inductive Width
  /-- Compact text. -/
  | compact
  /-- So many spaces. -/
  | spaces (n : Int)
  /-- A width, but no number is given. -/
  | missing
  deriving DecidableEq, Repr

/-- Why there is no layout with a width. -/
inductive WidthError
  /-- The width has no number. -/
  | missing
  /-- The width is below zero. -/
  | negative
  /-- The width fits into 64 bits, but no memory holds so many spaces. -/
  | beyondMemory
  /-- The width does not fit into 64 bits. -/
  | tooLarge
  deriving DecidableEq, Repr

/-- The wording of a refused width. -/
def WidthError.message : WidthError → String
  | .missing => "'list' object cannot be interpreted as an integer"
  | .negative => "can't convert negative int to unsigned"
  | .beyondMemory => "capacity overflow"
  | .tooLarge => "int too big to convert"

/-- The layout with a given width. -/
def Indent.ofWidth : Width → Except WidthError Indent
  | .compact => .ok .compact
  | .missing => .error .missing
  | .spaces n =>
    if n < 0 then .error .negative
    else if Nat.pow 2 64 ≤ n then .error .tooLarge
    else if Nat.pow 2 63 ≤ n then .error .beyondMemory
    else .ok (.spaces n.toNat)

/-- What stands before an item of the given depth. -/
def Indent.lineBreak : Indent → (depth : Nat) → List Char
  | .compact, _ => []
  | .spaces width, depth => '\n' :: List.replicate (width * depth) ' '

/-- What stands between a key and its value. -/
def Indent.colon : Indent → List Char
  | .compact => [':']
  | .spaces _ => [':', ' ']

/-- A character inside a text. -/
def escapedChar (c : Char) : List Char :=
  if c = '"' then ['\\', '"']
  else if c = '\\' then ['\\', '\\']
  else if c = '\x08' then ['\\', 'b']
  else if c = '\x0c' then ['\\', 'f']
  else if c = '\n' then ['\\', 'n']
  else if c = '\r' then ['\\', 'r']
  else if c = '\t' then ['\\', 't']
  else if c.toNat < 0x20 then
    ['\\', 'u', '0', '0', Nat.digitChar (c.toNat / 16), Nat.digitChar (c.toNat % 16)]
  else [c]

/-- A text between double quotes. -/
def escaped (s : List Char) : List Char := '"' :: s.flatMap escapedChar ++ ['"']

mutual

/-- The text of a value at a depth. -/
def renderAt (i : Indent) (depth : Nat) : Value → List Char
  | .null => "null".toList
  | .bool b => (if b then "true" else "false").toList
  | .int n => intDigits n
  | .float x => floatChars Value.floatFormat x
  | .text s => escaped s.toList
  | .moment m => escaped m.iso
  | .list [] => ['[', ']']
  | .list (v :: vs) =>
    '[' :: i.lineBreak (depth + 1) ++ renderAt i (depth + 1) v ++ renderItems i (depth + 1) vs
      ++ i.lineBreak depth ++ [']']
  | .map [] => ['\x7b', '\x7d']
  | .map ((k, v) :: es) =>
    '\x7b' :: i.lineBreak (depth + 1) ++ escaped k.toList ++ i.colon ++ renderAt i (depth + 1) v
      ++ renderEntries i (depth + 1) es ++ i.lineBreak depth ++ ['\x7d']

/-- The text of the further items of a list at a depth. -/
def renderItems (i : Indent) (depth : Nat) : List Value → List Char
  | [] => []
  | v :: vs => ',' :: i.lineBreak depth ++ renderAt i depth v ++ renderItems i depth vs

/-- The text of the further entries of a mapping at a depth. -/
def renderEntries (i : Indent) (depth : Nat) : List (String × Value) → List Char
  | [] => []
  | (k, v) :: es =>
    ',' :: i.lineBreak depth ++ escaped k.toList ++ i.colon ++ renderAt i depth v
      ++ renderEntries i depth es

end

/-- The text of a value. -/
def render (i : Indent) (v : Value) : String := String.ofList (renderAt i 0 v)

end KeyLayers.Json
