import KeyLayers.OrderedMap
import KeyLayers.Value.Basic

/-!
# TOML: tables

Tables are built key by key.  A dotted key leads through tables, which come into being on the way.

## Main definitions

* `Path` — a dotted key.
* `alterTable` — the entries after a change of the table behind a dotted key.
* `addNew` — the entries with a new key.
* `covers` — whether a dotted key begins with one of given ones.
-/

namespace KeyLayers.Toml

/-- A dotted key. -/
abbrev Path := List String

/-- The entries with the value `v` under the key `k`, which must be new. -/
def addNew (k : String) (v : Value) (es : Entries Value) : Option (Entries Value) :=
  match Entries.find? k es with
  | some _ => none
  | none => some (Entries.insert k v es)

/-- The items of a list after a change of the last one, which must be a table. -/
def alterLast (change : Entries Value → Option (Entries Value)) :
    List Value → Option (List Value)
  | [] => none
  | [.map es] => (change es).map fun es => [.map es]
  | [_] => none
  | v :: w :: vs => (alterLast change (w :: vs)).map (v :: ·)

/-- The entries after a change of the table behind a dotted key.  Missing tables on the way are
made.  If `throughLists` holds, a list on the way stands for its last item. -/
def alterTable (throughLists : Bool) (change : Entries Value → Option (Entries Value)) :
    Path → Entries Value → Option (Entries Value)
  | [], es => change es
  | k :: path, es =>
    match Entries.find? k es with
    | none => (alterTable throughLists change path []).map fun t => Entries.insert k (.map t) es
    | some (.map t) =>
      (alterTable throughLists change path t).map fun t => Entries.insert k (.map t) es
    | some (.list vs) =>
      if throughLists then
        (alterLast (alterTable throughLists change path) vs).map fun vs =>
          Entries.insert k (.list vs) es
      else none
    | some _ => none

/-- The entries with a further empty table in the list under the key `k`. -/
def appendTable (k : String) (es : Entries Value) : Option (Entries Value) :=
  match Entries.find? k es with
  | none => some (Entries.insert k (.list [.map []]) es)
  | some (.list vs) => some (Entries.insert k (.list (vs ++ [.map []])) es)
  | some _ => none

/-- Whether a dotted key begins with one of `paths`. -/
def covers (paths : List Path) (p : Path) : Bool := paths.any fun q => q.isPrefixOf p

/-- Whether a value is a table or a list. -/
def isComposed : Value → Bool
  | .map _ => true
  | .list _ => true
  | _ => false

/-- The table that is being written in one line, and the keys in it that are complete. -/
structure InlineTable where
  /-- The entries. -/
  entries : Entries Value := []
  /-- The keys of complete tables and lists. -/
  complete : List Path := []

/-- The table after a further pair of a dotted key and a value. -/
def InlineTable.add (t : InlineTable) (parents : Path) (key : String) (v : Value) :
    Option InlineTable :=
  let path := parents ++ [key]
  if covers t.complete path then none
  else
    (alterTable false (addNew key v) parents t.entries).map fun es =>
      ⟨es, if isComposed v then path :: t.complete else t.complete⟩

end KeyLayers.Toml
