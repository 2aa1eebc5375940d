import KeyLayers.Numeral.Binary64
import KeyLayers.Numeral.Reading
import KeyLayers.OrderedMap
import KeyLayers.Schema.Issue
import KeyLayers.Value.Display

/-!
# Decoders

A decoder reads a value tree as something of a type, or says everything that is wrong with it.
Decoders are put together from those for single values, lists and mappings, records and unions.

## Main definitions

* `Verdict` — something read, or all issues found.
* `Decoder` — a function from value trees to verdicts.
* `text`, `integer`, `boolean`, `choice` — decoders for single values.
* `listOf`, `tupleOf`, `mappingOf`, `nullable` — decoders for composed values.
* `required`, `defaulted`, `record`, `closedRecord` — fields and records.
* `tagged` — unions whose members are told apart by a field.
* `Schema` — a decoder with the title of what it reads.
-/

namespace KeyLayers

open Numeral

/-- Something read from a value tree, or everything that is wrong with the tree. -/
inductive Verdict (α : Type)
  /-- The value fits and reads as `a`. -/
  | accepted (a : α)
  /-- The value does not fit. -/
  | refused (issues : List Issue)
  deriving Repr

namespace Verdict

variable {α β : Type}

/-- The verdict with what was read replaced by its image. -/
def map (f : α → β) : Verdict α → Verdict β
  | .accepted a => .accepted (f a)
  | .refused is => .refused is

/-- Applies what one verdict has read to what another has; the issues of both are kept. -/
def apply : Verdict (α → β) → Verdict α → Verdict β
  | .accepted f, .accepted a => .accepted (f a)
  | .accepted _, .refused is => .refused is
  | .refused is, .accepted _ => .refused is
  | .refused is, .refused js => .refused (is ++ js)

instance : Applicative Verdict where
  pure := .accepted
  map := map
  seq f a := apply f (a ())

@[simp] theorem pure_eq (a : α) : (pure a : Verdict α) = .accepted a := rfl

@[simp] theorem map_eq (f : α → β) (v : Verdict α) : f <$> v = v.map f := rfl

@[simp] theorem seq_eq (f : Verdict (α → β)) (v : Verdict α) : f <*> v = f.apply v := rfl

/-- The verdict with a single issue at the top of the value. -/
def refuse (c : Cause) : Verdict α := .refused [⟨[], c⟩]

/-- The verdict on a value that lies one step down. -/
def below (s : Step) : Verdict α → Verdict α
  | .accepted a => .accepted a
  | .refused is => .refused (is.map fun i => ⟨s :: i.path, i.cause⟩)

/-- The verdict, refused also if further issues were found. -/
def withIssues (v : Verdict α) (more : List Issue) : Verdict α :=
  match v, more with
  | .accepted a, [] => .accepted a
  | .accepted _, is => .refused is
  | .refused is, js => .refused (is ++ js)

/-- The verdict after a rule over the whole of what was read. -/
def settle (wording : β → String) : Verdict (Except β α) → Verdict α
  | .accepted (.ok a) => .accepted a
  | .accepted (.error e) => refuse (.ruleBroken (wording e))
  | .refused is => .refused is

end Verdict

/-- A reader of value trees. -/
abbrev Decoder (α : Type) := Value → Verdict α

namespace Decoder

variable {α β : Type}

/-- Reads a text. -/
def text : Decoder String
  | .text s => .accepted s
  | _ => .refuse .notText

/-- Reads a floating point number taken apart as an integer: it must be finite and whole, and lie
between -2 ^ 63 and 2 ^ 63. -/
def integerOfBinary : Binary64 → Verdict Int
  | .finite negative mantissa exponent =>
    let (num, den) := scaled mantissa 1 exponent
    if num % den ≠ 0 then .refuse .fractional
    else if Nat.pow 2 63 ≤ num / den then .refuse .tooLarge
    else .accepted (if negative then -Int.ofNat (num / den) else Int.ofNat (num / den))
  | _ => .refuse .notFinite

/-- Reads an integer: also from a truth value, a whole number or a text. -/
def integer : Decoder Int
  | .int n => .accepted n
  | .bool b => .accepted (if b then 1 else 0)
  | .float x => integerOfBinary (.ofFloat x)
  | .text s =>
    match fieldInteger s.toList with
    | .ok n => .accepted n
    | .error .tooLong => .refuse .tooLarge
    | .error .unreadable => .refuse .integerUnreadable
  | _ => .refuse .notInteger

/-- The texts that stand for the truth values. -/
def booleanWords : List (String × Bool) :=
  [("0", false), ("off", false), ("f", false), ("false", false), ("n", false), ("no", false),
   ("1", true), ("on", true), ("t", true), ("true", true), ("y", true), ("yes", true)]

/-- Reads 0 and 1 as truth values. -/
def booleanOfInteger (n : Int) : Verdict Bool :=
  if n = 0 then .accepted false
  else if n = 1 then .accepted true
  else .refuse .booleanUnreadable

/-- Whether a number is an integer of 64 bits. -/
def fitsWord (n : Int) : Bool := -Int.ofNat (Nat.pow 2 63) ≤ n ∧ n < Int.ofNat (Nat.pow 2 63)

/-- Reads a truth value: also from 0 and 1, and from some words in any case.  Numbers that are no
integers of 64 bits are nothing like a truth value. -/
def boolean : Decoder Bool
  | .bool b => .accepted b
  | .int n => if fitsWord n then booleanOfInteger n else .refuse .notBoolean
  | .float x =>
    match integerOfBinary (.ofFloat x) with
    | .accepted n => booleanOfInteger n
    | .refused _ => .refuse .notBoolean
  | .text s =>
    match booleanWords.lookup (String.ofList (s.toList.map Char.toLower)) with
    | some b => .accepted b
    | none => .refuse .booleanUnreadable
  | _ => .refuse .notBoolean

/-- Reads one of the members of an enumeration by its name. -/
def choice (members : List α) (name : α → String) : Decoder α
  | .text s =>
    match members.find? fun m => name m = s with
    | some m => .accepted m
    | none => .refuse (.notChoice (members.map name))
  | _ => .refuse (.notChoice (members.map name))

/-- Reads one text only; issues show it as `shown`. -/
def literal (s : String) (shown : String) : Decoder Unit
  | .text t => if t = s then .accepted () else .refuse (.notLiteral shown)
  | _ => .refuse (.notLiteral shown)

/-- Reads the items of a list from position `i` on. -/
def items (d : Decoder α) (i : Nat) : List Value → Verdict (List α)
  | [] => .accepted []
  | v :: vs => List.cons <$> (d v).below (.index i) <*> items d (i + 1) vs

/-- Reads a list; the cause says what it should have been. -/
def sequence (c : Cause) (d : Decoder α) : Decoder (List α)
  | .list vs => items d 0 vs
  | _ => .refuse c

/-- Reads a list. -/
def listOf (d : Decoder α) : Decoder (List α) := sequence .notList d

/-- Reads a fixed sequence. -/
def tupleOf (d : Decoder α) : Decoder (List α) := sequence .notTuple d

/-- Reads the values of entries. -/
def values (d : Decoder α) : Entries Value → Verdict (Entries α)
  | [] => .accepted []
  | (k, v) :: es => (fun a l => (k, a) :: l) <$> (d v).below (.name k) <*> values d es

/-- Reads a mapping. -/
def mappingOf (d : Decoder α) : Decoder (OrderedMap α)
  | .map es => OrderedMap.ofList <$> values d es
  | _ => .refuse .notMapping

/-- Reads nothing, or what `d` reads. -/
def nullable (d : Decoder α) : Decoder (Option α)
  | .null => .accepted none
  | v => some <$> d v

/-- Reads the field `name`, which must be there. -/
def required (name : String) (d : Decoder α) (es : Entries Value) : Verdict α :=
  match Entries.find? name es with
  | some v => (d v).below (.name name)
  | none => (Verdict.refuse .missing).below (.name name)

/-- Reads the field `name`, or takes `default` if it is not there. -/
def defaulted (name : String) (default : α) (d : Decoder α) (es : Entries Value) : Verdict α :=
  match Entries.find? name es with
  | some v => (d v).below (.name name)
  | none => .accepted default

/-- Reads a required field that has a second name, which counts if the first is not there. -/
def requiredEither (name other : String) (d : Decoder α) (es : Entries Value) : Verdict α :=
  match Entries.find? name es, Entries.find? other es with
  | none, some v => (d v).below (.name other)
  | _, _ => required name d es

/-- Reads a record of the kind `model`; fields that are not read do not count. -/
def record (model : String) (fields : Entries Value → Verdict α) : Decoder α
  | .map es => fields es
  | _ => .refuse (.notRecord model)

/-- Reads a record of the kind `model` that has the named fields only. -/
def closedRecord (model : String) (names : List String) (fields : Entries Value → Verdict α) :
    Decoder α :=
  record model fun es =>
    (fields es).withIssues
      ((es.filter fun e => !names.contains e.1).map fun e => ⟨[.name e.1], .unknownField⟩)

/-- Reads a member of a union: the text in the field `field` says which. -/
def tagged (field : String) (members : List (String × Decoder α)) : Decoder α
  | .map es =>
    match Entries.find? field es with
    | none => .refuse (.noTag field)
    | some tag =>
      let unknown := .refuse (.unknownTag field tag.display (members.map Prod.fst))
      match tag with
      | .text t =>
        match members.lookup t with
        | some d => (d (.map es)).below (.name t)
        | none => unknown
      | _ => unknown
  | _ => .refuse .notTagged

end Decoder

/-- A decoder with the title of what it reads. -/
structure Schema (α : Type) where
  /-- The title. -/
  title : String
  /-- The decoder. -/
  decode : Decoder α

/-- Reads a value, or refuses it with all issues under the title. -/
def Schema.validate {α : Type} (s : Schema α) (v : Value) : Except Refusal α :=
  match s.decode v with
  | .accepted a => .ok a
  | .refused is => .error ⟨s.title, is⟩

end KeyLayers
