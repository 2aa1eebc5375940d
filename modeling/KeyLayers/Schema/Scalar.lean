import KeyLayers.Schema.Decoder

/-!
# Scalars

The value of a host variable is a text, an integer or a truth value, and keeps its kind.

## Main definitions

* `Scalar` — the three kinds.
* `Scalar.decoder` — reads a scalar: a value of one of the kinds is itself, any other is tried as a
  text, an integer and a truth value, in this order.
* `Scalar.toValue` — the value tree of a scalar.
-/

namespace KeyLayers

/-- A text, an integer or a truth value. -/
inductive Scalar
  /-- A text. -/
  | text (s : String)
  /-- An integer. -/
  | int (n : Int)
  /-- A truth value. -/
  | bool (b : Bool)
  deriving DecidableEq, Repr

namespace Scalar

/-- Reads a scalar. -/
def decoder : Decoder Scalar
  | .text s => .accepted (.text s)
  | .int n => .accepted (.int n)
  | .bool b => .accepted (.bool b)
  | v =>
    let asText := (Decoder.text v).below (.name "str")
    let asInteger := (Decoder.integer v).below (.name "int")
    let asBoolean := (Decoder.boolean v).below (.name "bool")
    match asText, asInteger, asBoolean with
    | .accepted s, _, _ => .accepted (.text s)
    | _, .accepted n, _ => .accepted (.int n)
    | _, _, .accepted b => .accepted (.bool b)
    | .refused is, .refused js, .refused ks => .refused (is ++ js ++ ks)

/-- The value tree of a scalar. -/
def toValue : Scalar → Value
  | .text s => .text s
  | .int n => .int n
  | .bool b => .bool b

/-- A scalar is read from its value tree with its kind. -/
@[simp] theorem decoder_toValue (x : Scalar) : decoder x.toValue = .accepted x := by
  cases x <;> rfl

end Scalar

end KeyLayers
