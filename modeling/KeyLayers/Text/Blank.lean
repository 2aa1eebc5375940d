import KeyLayers.Text.CodeRange

/-!
# Blank characters

Texts that a person wrote are trimmed before they are read.  Two classes of characters are trimmed:
the *blanks* around key names and numbers on the command line, and the smaller class of *spaces*
around numbers in a description, which lacks the four separators U+001C to U+001F.

## Main definitions

* `isBlank`, `isSpace` — the two classes.
* `trim` — a text without the characters of a class at its ends.
* `strip` — a text without blanks at its ends.
-/

namespace KeyLayers.Text

/-- The spaces: the characters with the property White_Space. -/
def spaceRanges : List (Nat × Nat) :=
  [(0x9, 0xD), (0x20, 0x20), (0x85, 0x85), (0xA0, 0xA0), (0x1680, 0x1680), (0x2000, 0x200A),
   (0x2028, 0x2029), (0x202F, 0x202F), (0x205F, 0x205F), (0x3000, 0x3000)]

/-- Whether a character is a space. -/
def isSpace (c : Char) : Bool := inRanges spaceRanges c.toNat

/-- Whether a character is blank: a space or one of the information separators. -/
def isBlank (c : Char) : Bool := inRanges ((0x1C, 0x1F) :: spaceRanges) c.toNat

/-- The text without the characters of class `p` at its ends. -/
def trim (p : Char → Bool) (s : List Char) : List Char :=
  ((s.dropWhile p).reverse.dropWhile p).reverse

/-- The text without blanks at its ends. -/
def strip (s : List Char) : List Char := trim isBlank s

@[simp] theorem trim_nil (p : Char → Bool) : trim p [] = [] := rfl

@[simp] theorem strip_nil : strip [] = [] := rfl

end KeyLayers.Text
