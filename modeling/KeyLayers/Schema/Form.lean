import KeyLayers.Value.Basic

/-!
# Forms of a written record

A record is written as a mapping of its fields.  The full form has every field, also those that hold
nothing.  The wire form, which the host reads, leaves out fields that hold nothing.

## Main definitions

* `Form` — the two forms.
* `Form.record` — a record with given fields.
* `Value.ofOption` — a field that may hold nothing.
-/

namespace KeyLayers

/-- The forms of a written record. -/
inductive Form
  /-- Every field, under its own name. -/
  | full
  /-- The fields that hold something, under the names that the host knows. -/
  | wire
  deriving DecidableEq, Repr

/-- The value tree of a record with the given fields. -/
def Form.record (f : Form) (fields : List (String × Value)) : Value :=
  match f with
  | .full => .map fields
  | .wire => .map (fields.filter fun e => !e.2.isNull)

/-- The value tree of something that may be missing. -/
def Value.ofOption {α : Type} (toValue : α → Value) : Option α → Value
  | none => .null
  | some a => toValue a

@[simp] theorem Value.ofOption_none {α : Type} (f : α → Value) :
    Value.ofOption f none = .null := rfl

@[simp] theorem Value.ofOption_some {α : Type} (f : α → Value) (a : α) :
    Value.ofOption f (some a) = f a := rfl

end KeyLayers
