import KeyLayers.Numeral.Digits

/-!
# TOML: faults

A text is refused for the first fault in it.  Most faults break a rule of the format and are not
told apart.  A decimal integer that is too long is a fault of its own kind.

## Main definitions

* `Fault`, `Fault.message` — why a text is no document, and the wording.
* `Parsing` — what has been read from the start of a text, or the fault that was met.
* `orMalformed` — what is there, or the fault that it is missing.
-/

namespace KeyLayers.Toml

open Numeral

/-- Why a text is no document. -/
inductive Fault
  /-- The text breaks a rule of the format. -/
  | malformed
  /-- A decimal integer has more digits than are read. -/
  | tooLong (digits : Nat)
  deriving DecidableEq, Repr

/-- The wording of a fault. -/
def Fault.message : Fault → String
  | .malformed => "the configuration is not valid TOML"
  | .tooLong n => tooLongToRead n

/-- A reader that names its fault: what it has read from the start of a text, and the rest of the
text. -/
abbrev Parsing (α : Type) := Except Fault (α × List Char)

/-- What is there; if nothing is, the text is malformed. -/
def orMalformed {α : Type} : Option α → Except Fault α
  | some a => .ok a
  | none => .error .malformed

@[simp] theorem orMalformed_some {α : Type} (a : α) : orMalformed (some a) = .ok a := rfl

@[simp] theorem orMalformed_none {α : Type} : orMalformed (none : Option α) = .error .malformed :=
  rfl

end KeyLayers.Toml
