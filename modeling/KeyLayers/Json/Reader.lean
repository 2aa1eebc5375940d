import KeyLayers.Json.Grammar

/-!
# Reading JSON text

The reader goes through a text once, from left to right.  Each part takes what it reads from the
front of the characters and hands back the rest.  Numbers and words are taken as long as they go.
The depth and the number of items are bounded by the number of characters, so that bound is handed
down to make the recursion end.

## Main definitions

* `Json.readChar`, `Json.readText` — the inside of a text.
* `Json.readItems`, `Json.readEnclosed` — items between commas, and between brackets.
* `Json.readElement` — a value with the white space around it.
* `Json.read` — the value of a whole text.
-/

namespace KeyLayers.Json

/-- What is left behind white space. -/
def skipWhite (cs : List Char) : List Char := cs.dropWhile isWhite

/-- Reads four hexadecimal digits. -/
def readCode (cs : List Char) : Option (Nat × List Char) :=
  (codeOf? (cs.take 4)).map fun n => (n, cs.drop 4)

/-- The character with a number. -/
def charOf? (n : Nat) : Option Char := if n.isValidChar then some (Char.ofNat n) else none

/-- Reads the second half of a surrogate pair. -/
def readLow (high : Nat) : List Char → Option (Char × List Char)
  | '\\' :: 'u' :: cs => (readCode cs).bind fun (low, rest) =>
    if isLow low then (charOf? (pairCode high low)).map fun c => (c, rest) else none
  | _ => none

/-- Reads a character inside a text. -/
def readChar : List Char → Option (Char × List Char)
  | [] => none
  | '\\' :: 'u' :: cs => (readCode cs).bind fun (n, rest) =>
    if isHigh n then readLow n rest else (charOf? n).map fun c => (c, rest)
  | '\\' :: e :: cs => (shortEscapes.lookup e).map fun c => (c, cs)
  | c :: cs => if 0x20 ≤ c.toNat ∧ c ≠ '"' ∧ c ≠ '\\' then some (c, cs) else none

/-- Reads the characters of a text and the quote behind them. -/
def readText : (bound : Nat) → List Char → Option (List Char × List Char)
  | _, '"' :: cs => some ([], cs)
  | 0, _ => none
  | n + 1, cs => (readChar cs).bind fun (c, rest) =>
    (readText n rest).map fun (s, rest) => (c :: s, rest)

/-- Reads the characters of a text behind its opening quote. -/
def readQuoted (cs : List Char) : Option (List Char × List Char) := readText cs.length cs

section Sequences

variable {α : Type} (p : List Char → Option (α × List Char)) (close : Char)

/-- Reads one or more items, with commas between them and `close` behind the last one. -/
def readItems : (bound : Nat) → List Char → Option (List α × List Char)
  | 0, _ => none
  | n + 1, cs => (p cs).bind fun (a, rest) =>
    match rest with
    | [] => none
    | c :: rest =>
      if c = ',' then (readItems n rest).map fun (as, rest) => (a :: as, rest)
      else if c = close then some ([a], rest)
      else none

/-- Reads items behind an opening bracket, of which there may be none. -/
def readEnclosed (cs : List Char) : Option (List α × List Char) :=
  match skipWhite cs with
  | [] => none
  | c :: rest => if c = close then some ([], rest) else readItems p close cs.length cs

end Sequences

/-- Reads a member of an object. -/
def readMember (p : List Char → Option (Value × List Char)) (cs : List Char) :
    Option ((String × Value) × List Char) :=
  match skipWhite cs with
  | '"' :: cs => (readQuoted cs).bind fun (s, rest) =>
    match skipWhite rest with
    | ':' :: rest => (p rest).map fun (v, rest) => ((String.ofList s, v), rest)
    | _ => none
  | _ => none

/-- The characters that words and numbers are made of. -/
def isWordChar (c : Char) : Bool := c.isAlphanum || c = '+' || c = '-' || c = '.'

/-- Reads a value from its first character on. -/
def readValue (p : List Char → Option (Value × List Char)) :
    List Char → Option (Value × List Char)
  | '"' :: cs => (readQuoted cs).map fun (s, rest) => (.text (String.ofList s), rest)
  | '[' :: cs => (readEnclosed p ']' cs).map fun (vs, rest) => (.list vs, rest)
  | '\x7b' :: cs => (readEnclosed (readMember p) '\x7d' cs).map fun (es, rest) =>
    (.map (OrderedMap.ofList es).entries, rest)
  | cs => (wordOf? (cs.takeWhile isWordChar)).map fun v => (v, cs.dropWhile isWordChar)

/-- Reads a value and the white space around it. -/
def readElement : (bound : Nat) → List Char → Option (Value × List Char)
  | 0, _ => none
  | n + 1, cs => (readValue (readElement n) (skipWhite cs)).map fun (v, rest) =>
    (v, skipWhite rest)

/-- The value that a text spells. -/
def read (s : String) : Option Value :=
  match readElement s.toList.length s.toList with
  | some (v, []) => some v
  | _ => none

end KeyLayers.Json
