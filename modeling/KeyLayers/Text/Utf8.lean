/-!
# UTF-8

Bytes are read as text character by character.  A fault names its place: the bytes that no character
can be read from, and why.  The second byte of a sequence is narrower than the others where a wider
one would spell a character in too many bytes, a surrogate, or a number beyond the last character.

## Main definitions

* `Utf8.Fault` — where and why bytes are no text.
* `Utf8.decode` — the text that bytes spell.
-/

namespace KeyLayers.Text.Utf8

/-- Why bytes are no text. -/
inductive Reason
  /-- The byte starts no character. -/
  | invalidStart
  /-- A byte that should continue a character does not. -/
  | invalidContinuation
  /-- The bytes end inside a character. -/
  | unexpectedEnd
  deriving DecidableEq, Repr

/-- Bytes that are no text. -/
structure Fault where
  /-- The position of the first bad byte. -/
  start : Nat
  /-- The bad bytes after the first. -/
  more : Nat
  /-- The first bad byte. -/
  byte : UInt8
  /-- The reason. -/
  reason : Reason
  deriving DecidableEq, Repr

/-- The wording of a reason. -/
def Reason.message : Reason → String
  | .invalidStart => "invalid start byte"
  | .invalidContinuation => "invalid continuation byte"
  | .unexpectedEnd => "unexpected end of data"

/-- Two hexadecimal digits for a byte. -/
def hexByte (b : UInt8) : String :=
  String.ofList [Nat.digitChar (b.toNat / 16), Nat.digitChar (b.toNat % 16)]

/-- The wording of a fault: a single byte is shown, several are given by their positions. -/
def Fault.message (f : Fault) : String :=
  let place :=
    if f.more = 0 then s!"byte 0x{hexByte f.byte} in position {f.start}"
    else s!"bytes in position {f.start}-{f.start + f.more}"
  s!"'utf-8' codec can't decode {place}: {f.reason.message}"

/-- What a first byte says about its character. -/
inductive Lead
  /-- The character is the byte. -/
  | single
  /-- `extra` bytes follow, the first of them between `low` and `high`; `bits` are the first byte's
  part of the number. -/
  | multi (extra low high bits : Nat)
  /-- No character starts so. -/
  | invalid

/-- The class of a first byte. -/
def Lead.ofByte (b : Nat) : Lead :=
  if b < 0x80 then .single
  else if b < 0xC2 then .invalid
  else if b < 0xE0 then .multi 1 0x80 0xBF (b - 0xC0)
  else if b = 0xE0 then .multi 2 0xA0 0xBF 0
  else if b = 0xED then .multi 2 0x80 0x9F 0xD
  else if b < 0xF0 then .multi 2 0x80 0xBF (b - 0xE0)
  else if b = 0xF0 then .multi 3 0x90 0xBF 0
  else if b < 0xF4 then .multi 3 0x80 0xBF (b - 0xF0)
  else if b = 0xF4 then .multi 3 0x80 0x8F 4
  else .invalid

/-- Where a reader of bytes stands. -/
inductive Progress
  /-- Between two characters. -/
  | ready
  /-- Inside a character that started at `start` with `first`: `seen` bytes came after it and make
  `bits` with it, `left` + 1 are to come, and the next one lies between `low` and `high`. -/
  | inside (start : Nat) (first : UInt8) (seen left low high bits : Nat)

/-- The text that the bytes from position `pos` on spell. -/
def decodeFrom (pos : Nat) : Progress → List UInt8 → Except Fault (List Char)
  | .ready, [] => .ok []
  | .inside start first seen _ _ _ _, [] => .error ⟨start, seen, first, .unexpectedEnd⟩
  | .ready, b :: bytes =>
    match Lead.ofByte b.toNat with
    | .single => (decodeFrom (pos + 1) .ready bytes).map (Char.ofNat b.toNat :: ·)
    | .multi extra low high bits =>
      decodeFrom (pos + 1) (.inside pos b 0 (extra - 1) low high bits) bytes
    | .invalid => .error ⟨pos, 0, b, .invalidStart⟩
  | .inside start first seen left low high bits, b :: bytes =>
    if low ≤ b.toNat ∧ b.toNat ≤ high then
      let bits := bits * 0x40 + (b.toNat - 0x80)
      match left with
      | 0 => (decodeFrom (pos + 1) .ready bytes).map (Char.ofNat bits :: ·)
      | left + 1 => decodeFrom (pos + 1) (.inside start first (seen + 1) left 0x80 0xBF bits) bytes
    else .error ⟨start, seen, first, .invalidContinuation⟩

/-- The text that bytes spell, or the first fault. -/
def decode (bytes : List UInt8) : Except Fault (List Char) := decodeFrom 0 .ready bytes

end KeyLayers.Text.Utf8
