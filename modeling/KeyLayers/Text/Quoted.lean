import KeyLayers.Text.Printable

/-!
# Quoted text

Messages show a text between quotes, with everything that is not printable written as an escape.
The quotes are single, unless the text holds a single quote and no double one.

## Main definitions

* `quoteMark` — the quote for a text.
* `quoted`, `quotedList` — a text and a list of texts as messages show them.
-/

namespace KeyLayers.Text

/-- The digits of `n` in base sixteen, lower case, as many as `width` says. -/
def hexDigits : (width : Nat) → (n : Nat) → List Char
  | 0, _ => []
  | w + 1, n => hexDigits w (n / 16) ++ [Nat.digitChar (n % 16)]

/-- The quote that surrounds a text. -/
def quoteMark (s : List Char) : Char :=
  if s.contains '\'' && !s.contains '"' then '"' else '\''

/-- A character between two quotes `mark`. -/
def quotedChar (mark c : Char) : List Char :=
  if c = mark || c = '\\' then ['\\', c]
  else if c = '\n' then ['\\', 'n']
  else if c = '\r' then ['\\', 'r']
  else if c = '\t' then ['\\', 't']
  else if isPrintable c then [c]
  else if c.toNat < 0x100 then '\\' :: 'x' :: hexDigits 2 c.toNat
  else if c.toNat < 0x10000 then '\\' :: 'u' :: hexDigits 4 c.toNat
  else '\\' :: 'U' :: hexDigits 8 c.toNat

/-- A text between quotes. -/
def quotedChars (s : List Char) : List Char :=
  let mark := quoteMark s
  mark :: s.flatMap (quotedChar mark) ++ [mark]

/-- A text between quotes. -/
def quoted (s : String) : String := String.ofList (quotedChars s.toList)

/-- A single quote in a text calls for double ones around it, unless the text has both. -/
example : quotedChars "it's".toList = "\"it's\"".toList ∧ quotedChars ['\'', '"'] =
    ['\'', '\\', '\'', '"', '\''] := by decide +kernel

/-- A list of texts, each between quotes. -/
def quotedList (l : List String) : String := "[" ++ ", ".intercalate (l.map quoted) ++ "]"

end KeyLayers.Text
