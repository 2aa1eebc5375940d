import KeyLayers.Numeral.Digits

/-!
# TOML: blanks, comments and texts

The smallest parts of a TOML file.  A reader of such a part gives what it has read and what is left,
or nothing if the part is malformed.

## Main definitions

* `skipBlank`, `skipFiller` — what stands between other parts.
* `basicText`, `basicLines`, `literalText`, `literalLines` — the four kinds of texts.
* `keyPart` — one part of a dotted key.
-/

namespace KeyLayers.Toml

open Numeral

/-- A reader: what it has read from the start of a text, and the rest of the text. -/
abbrev Reading (α : Type) := Option (α × List Char)

/-- Whether a character is a blank within a line. -/
def isBlank (c : Char) : Bool := c == ' ' || c == '\t'

/-- Whether a character may not stand in comments and texts of one line: the controls but the
tabulator. -/
def isControl (c : Char) : Bool := (c.toNat < 0x20 && c != '\t') || c.toNat == 0x7F

/-- The text after the blanks at its start. -/
def skipBlank (s : List Char) : List Char := s.dropWhile isBlank

/-- The text after a comment at its start, if there is one; the line end is left. -/
def skipComment : List Char → Option (List Char)
  | '#' :: s =>
    if (s.takeWhile (· ≠ '\n')).any isControl then none else some (s.dropWhile (· ≠ '\n'))
  | s => some s

/-- The text after the blanks, line ends and comments at its start. -/
def skipFiller : (inComment : Bool) → List Char → Option (List Char)
  | _, [] => some []
  | false, c :: s =>
    if isBlank c || c == '\n' then skipFiller false s
    else if c = '#' then skipFiller true s
    else some (c :: s)
  | true, c :: s =>
    if c = '\n' then skipFiller false s
    else if isControl c then none
    else skipFiller true s

/-- The character with the number that hexadecimal digits spell. -/
def hexChar? (ds : List Char) : Option Char :=
  (ofDigits? 16 ds).bind fun n =>
    if n < 0xD800 ∨ (0xDFFF < n ∧ n < 0x110000) then some (Char.ofNat n) else none

/-- The character that an escape of one letter stands for. -/
def escapeChar? : Char → Option Char
  | 'b' => some '\x08'
  | 't' => some '\t'
  | 'n' => some '\n'
  | 'f' => some '\x0c'
  | 'r' => some '\r'
  | '"' => some '"'
  | '\\' => some '\\'
  | _ => none

/-- Puts a character in front of what a reader has read. -/
def consText (c : Option Char) (r : Reading (List Char)) : Reading (List Char) :=
  c.bind fun c => r.map fun p => (c :: p.1, p.2)

/-- A text of one line with escapes, after its opening quote. -/
def basicText : List Char → Reading (List Char)
  | '"' :: s => some ([], s)
  | '\\' :: 'u' :: a :: b :: c :: d :: s => consText (hexChar? [a, b, c, d]) (basicText s)
  | '\\' :: 'U' :: a :: b :: c :: d :: e :: f :: g :: h :: s =>
    consText (hexChar? [a, b, c, d, e, f, g, h]) (basicText s)
  | '\\' :: c :: s => consText (escapeChar? c) (basicText s)
  | c :: s => if isControl c || c == '\\' then none else consText (some c) (basicText s)
  | [] => none

/-- What a text of several lines leaves out before it goes on. -/
inductive Skipping
  /-- Nothing. -/
  | nothing
  /-- Blanks up to the end of the line, which must come. -/
  | toLineEnd
  /-- Blanks and line ends. -/
  | allBlank
  deriving DecidableEq

/-- Up to two quotes that stand before the three closing ones belong to the text. -/
def extraQuotes (mark : Char) : List Char → List Char × List Char
  | c :: d :: s =>
    if c = mark then
      if d = mark then ([mark, mark], s) else ([mark], d :: s)
    else ([], c :: d :: s)
  | [c] => if c = mark then ([mark], []) else ([], [c])
  | [] => ([], [])

/-- A text of several lines with escapes, after its opening quotes and the line end behind them.  A
backslash at the end of a line leaves out everything blank up to the next character. -/
def basicLines : Skipping → List Char → Reading (List Char)
  | _, [] => none
  | .toLineEnd, c :: s =>
    if c = '\n' then basicLines .allBlank s
    else if isBlank c then basicLines .toLineEnd s
    else none
  | skipping, c :: s =>
    if skipping = .allBlank ∧ (isBlank c ∨ c = '\n') then basicLines .allBlank s
    else
      match c, s with
      | '"', '"' :: '"' :: s => some (extraQuotes '"' s)
      | '\\', 'u' :: a :: b :: c :: d :: s =>
        consText (hexChar? [a, b, c, d]) (basicLines .nothing s)
      | '\\', 'U' :: a :: b :: c :: d :: e :: f :: g :: h :: s =>
        consText (hexChar? [a, b, c, d, e, f, g, h]) (basicLines .nothing s)
      | '\\', '\n' :: s => basicLines .allBlank s
      | '\\', c :: s =>
        if isBlank c then basicLines .toLineEnd s
        else consText (escapeChar? c) (basicLines .nothing s)
      | c, s =>
        if (isControl c && c != '\n') || c == '\\' then none
        else consText (some c) (basicLines .nothing s)

/-- A text of one line without escapes, after its opening quote. -/
def literalText : List Char → Reading (List Char)
  | [] => none
  | '\'' :: s => some ([], s)
  | c :: s => if isControl c then none else consText (some c) (literalText s)

/-- A text of several lines without escapes, after its opening quotes and the line end behind
them. -/
def literalLines : List Char → Reading (List Char)
  | [] => none
  | '\'' :: '\'' :: '\'' :: s => some (extraQuotes '\'' s)
  | c :: s => if isControl c && c != '\n' then none else consText (some c) (literalLines s)

/-- The text after a line end at its start, if there is one. -/
def skipLineEnd : List Char → List Char
  | '\n' :: s => s
  | s => s

/-- Whether a character may stand in a key without quotes. -/
def isKeyChar (c : Char) : Bool := c.isAlphanum || c == '-' || c == '_'

/-- One part of a dotted key. -/
def keyPart : List Char → Reading String
  | '"' :: s => (basicText s).map fun p => (String.ofList p.1, p.2)
  | '\'' :: s => (literalText s).map fun p => (String.ofList p.1, p.2)
  | s =>
    let part := s.takeWhile isKeyChar
    if part.isEmpty then none else some (String.ofList part, s.dropWhile isKeyChar)

end KeyLayers.Toml
