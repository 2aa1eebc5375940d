import KeyLayers.Text.CaseTable
import KeyLayers.Text.CodeRange

/-!
# Lower-casing

Lower-casing replaces each capital by its small letter.  Two capitals need more than the table: the
dotted capital I becomes a small i and a combining dot, and a capital sigma becomes the final form
at the end of a word, that is, after a cased letter and before none, where case-ignorable
characters are skipped on both sides.

## Main definitions

* `lowerCode` — the small letter of a code point, by the table.
* `endsWord` — whether a word ends between two texts.
* `lower` — the lower-case form of a text.
-/

namespace KeyLayers.Text

/-- The small letter of a capital; every other code point is its own. -/
def lowerCode (c : Nat) : Nat :=
  match capitalRuns.find? (·.covers c) with
  | some r => r.lower c
  | none => c

/-- Whether a character is a cased letter that a search does not skip. -/
def isCased (c : Char) : Bool := inRanges casedRanges c.toNat

/-- Whether a search for a cased letter skips the character. -/
def isIgnorable (c : Char) : Bool := inRanges ignorableRanges c.toNat

/-- Whether the first character that a search does not skip is a cased letter. -/
def reachesCased (s : List Char) : Bool :=
  match s.dropWhile isIgnorable with
  | [] => false
  | c :: _ => isCased c

/-- Whether a word ends between `before`, which is read backwards, and `after`. -/
def endsWord (before after : List Char) : Bool := reachesCased before && !reachesCased after

/-- The capital sigma. -/
def capitalSigma : Char := 'Σ'

/-- The dotted capital I. -/
def dottedI : Char := 'İ'

/-- The lower-case form of the character `c` between `before`, read backwards, and `after`. -/
def lowerChar (before : List Char) (c : Char) (after : List Char) : List Char :=
  if c = capitalSigma then [if endsWord before after then 'ς' else 'σ']
  else if c = dottedI then ['i', '\u0307']
  else [Char.ofNat (lowerCode c.toNat)]

/-- The lower-case form of a text that follows `before`, which is read backwards. -/
def lowerAfter (before : List Char) : List Char → List Char
  | [] => []
  | c :: after => lowerChar before c after ++ lowerAfter (c :: before) after

/-- The lower-case form of a text. -/
def lower (s : List Char) : List Char := lowerAfter [] s

@[simp] theorem lower_nil : lower [] = [] := rfl

/-- A sigma inside a word and one at its end. -/
example : lower "ΟΣΟΣ".toList = "οσος".toList := by decide +kernel

/-- A sigma that is a word of its own ends nothing. -/
example : lower "Σ".toList = "σ".toList := by decide +kernel

end KeyLayers.Text
