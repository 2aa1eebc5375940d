import KeyLayers.Numeral.FloatReading
import KeyLayers.Numeral.Reading
import KeyLayers.OrderedMap
import KeyLayers.Value.Basic

/-!
# JSON text as a grammar

Which texts are JSON, and which value each of them spells, is said here by a grammar, without regard
to how such a text is read or written.  White space may stand around every value and around the
names in an object.  Where an object repeats a name, the last value counts.  Two escapes for the
halves of a surrogate pair spell one character; a half alone spells none.

## Main definitions

* `Json.wordOf?` — the values that are spelt without brackets or quotes.
* `Json.SpellsChar`, `Json.SpellsText` — the inside of a text.
* `Json.Spells` — the grammar.
-/

namespace KeyLayers.Json

open Numeral

/-- The characters that may stand between values. -/
def isWhite (c : Char) : Bool := c = ' ' || c = '\t' || c = '\n' || c = '\r'

/-- A text of white space only. -/
def IsWhite (cs : List Char) : Prop := ∀ c ∈ cs, isWhite c = true

/-! ### Words and numbers -/

/-- Whether a text consists of one or more digits. -/
def isDigits (cs : List Char) : Bool := !cs.isEmpty && cs.all Char.isDigit

/-- Whether a text may end a number after its digits: it is empty or a power of ten. -/
def isPower : List Char → Bool
  | [] => true
  | c :: '+' :: cs => (c = 'e' || c = 'E') && isDigits cs
  | c :: '-' :: cs => (c = 'e' || c = 'E') && isDigits cs
  | c :: cs => (c = 'e' || c = 'E') && isDigits cs

/-- Whether a text may end a number after the digits before the point. -/
def isFraction : List Char → Bool
  | '.' :: cs =>
    let ds := cs.takeWhile Char.isDigit
    !ds.isEmpty && isPower (cs.dropWhile Char.isDigit)
  | cs => isPower cs

/-- The number that a text spells.  Without fraction and power it is an integer. -/
def numberOf? (cs : List Char) : Option Value :=
  let (sign, unsigned) := cutMinus cs
  let (ds, rest) := cutDigits unsigned
  if ds.isEmpty then none
  else if rest.isEmpty then
    (ofDigits? 10 ds).map fun n => .int (if sign.isEmpty then Int.ofNat n else -Int.ofNat n)
  else if isFraction rest then (floatOfText? cs).map .float
  else none

/-- The value that a word or a number spells. -/
def wordOf? (cs : List Char) : Option Value :=
  if cs = "null".toList then some .null
  else if cs = "true".toList then some (.bool true)
  else if cs = "false".toList then some (.bool false)
  else numberOf? cs

/-! ### Texts -/

/-- The escapes of one character, and what each of them spells. -/
def shortEscapes : List (Char × Char) :=
  [('"', '"'), ('\\', '\\'), ('/', '/'), ('b', '\x08'), ('f', '\x0c'), ('n', '\n'), ('r', '\r'),
   ('t', '\t')]

/-- The number that four hexadecimal digits spell. -/
def codeOf? (ds : List Char) : Option Nat := if ds.length = 4 then ofDigits? 16 ds else none

/-- The numbers of the first halves of surrogate pairs. -/
def isHigh (n : Nat) : Bool := 0xD800 ≤ n && n < 0xDC00

/-- The numbers of the second halves of surrogate pairs. -/
def isLow (n : Nat) : Bool := 0xDC00 ≤ n && n < 0xE000

/-- The number of the character that a surrogate pair spells. -/
def pairCode (high low : Nat) : Nat := 0x10000 + (high - 0xD800) * 0x400 + (low - 0xDC00)

/-- `SpellsChar c cs` says that `cs` spells the character `c` inside a text. -/
inductive SpellsChar : Char → List Char → Prop
  | plain {c : Char} (hcontrol : 0x20 ≤ c.toNat) (hquote : c ≠ '"') (hbackslash : c ≠ '\\') :
    SpellsChar c [c]
  | short {c e : Char} (h : shortEscapes.lookup e = some c) : SpellsChar c ['\\', e]
  | code {c : Char} {ds : List Char} (h : codeOf? ds = some c.toNat) :
    SpellsChar c ('\\' :: 'u' :: ds)
  | pair {c : Char} {ds es : List Char} {high low : Nat} (hds : codeOf? ds = some high)
    (hhigh : isHigh high) (hes : codeOf? es = some low) (hlow : isLow low)
    (hc : c.toNat = pairCode high low) :
    SpellsChar c ('\\' :: 'u' :: ds ++ '\\' :: 'u' :: es)

/-- `SpellsText s cs` says that `cs` spells the characters `s` between the quotes of a text. -/
inductive SpellsText : List Char → List Char → Prop
  | nil : SpellsText [] []
  | cons {c : Char} {s cs cs' : List Char} (head : SpellsChar c cs) (tail : SpellsText s cs') :
    SpellsText (c :: s) (cs ++ cs')

/-! ### Values -/

/-- A name and a value of an object, and how each is spelt. -/
structure Member where
  /-- The name. -/
  name : String
  /-- How the name is spelt. -/
  nameText : List Char
  /-- The value. -/
  value : Value
  /-- How the value is spelt. -/
  valueText : List Char
  deriving Inhabited

/-- The entry that a member stands for. -/
def Member.entry (m : Member) : String × Value := (m.name, m.value)

/-- The text of a member. -/
def Member.text (m : Member) : List Char := m.nameText ++ ':' :: m.valueText

/-- `Spells v cs` says that `cs` is JSON and spells the value `v`. -/
inductive Spells : Value → List Char → Prop
  | word {v : Value} {cs : List Char} (h : wordOf? cs = some v) : Spells v cs
  | text {s cs : List Char} (h : SpellsText s cs) :
    Spells (.text (String.ofList s)) ('"' :: cs ++ ['"'])
  | emptyList {w : List Char} (h : IsWhite w) : Spells (.list []) ('[' :: w ++ [']'])
  | list {cells : List (Value × List Char)} (hne : cells ≠ [])
    (items : ∀ c ∈ cells, Spells c.1 c.2) :
    Spells (.list (cells.map Prod.fst))
      ('[' :: [','].intercalate (cells.map Prod.snd) ++ [']'])
  | emptyMap {w : List Char} (h : IsWhite w) : Spells (.map []) ('\x7b' :: w ++ ['\x7d'])
  | map {members : List Member} (hne : members ≠ [])
    (names : ∀ m ∈ members, Spells (.text m.name) m.nameText)
    (values : ∀ m ∈ members, Spells m.value m.valueText) :
    Spells (.map (OrderedMap.ofList (members.map Member.entry)).entries)
      ('\x7b' :: [','].intercalate (members.map Member.text) ++ ['\x7d'])
  | padded {v : Value} {l cs r : List Char} (hl : IsWhite l) (h : Spells v cs) (hr : IsWhite r) :
    Spells v (l ++ cs ++ r)

end KeyLayers.Json
