import KeyLayers.Toml.Statement

/-!
# TOML: documents

The statements of a file are read and carried out one by one on one table, so that the first fault
of the file is the one that is found.  A table may be headed only once, a
table that came into being by dotted keys cannot be headed later on, and tables and lists that were
written in one piece cannot be added to.

## Main definitions

* `Document` — the table and what is known about its parts.
* `Document.perform` — the document after a statement.
* `Document.performAll` — the document after the statements of a text.
* `parse` — the table that a text describes.
-/

namespace KeyLayers.Toml

/-- A table under construction. -/
structure Document where
  /-- The entries. -/
  entries : Entries Value := []
  /-- The key of the table that pairs belong to. -/
  header : Path := []
  /-- The keys of tables that cannot be headed any more. -/
  headed : List Path := []
  /-- The keys of tables that cannot be headed after the next head. -/
  pending : List Path := []
  /-- The keys of tables and lists that were written in one piece. -/
  complete : List Path := []

namespace Document

/-- The document when a new head comes. -/
def close (d : Document) : Document := { d with headed := d.pending ++ d.headed, pending := [] }

/-- The document after the head of a table. -/
def openTable (d : Document) (parents : Path) (key : String) : Option Document :=
  let d := d.close
  let path := parents ++ [key]
  if d.headed.contains path || covers d.complete path then none
  else
    (alterTable true some path d.entries).map fun es =>
      { d with entries := es, header := path, headed := path :: d.headed }

/-- The document after the head of a further table in a list.  What was known about the tables
behind its key is forgotten. -/
def openListTable (d : Document) (parents : Path) (key : String) : Option Document :=
  let d := d.close
  let path := parents ++ [key]
  if covers d.complete path then none
  else
    (alterTable true (appendTable key) parents d.entries).map fun es =>
      { d with
        entries := es
        header := path
        headed := path :: d.headed.filter fun q => !path.isPrefixOf q
        complete := d.complete.filter fun q => !path.isPrefixOf q }

/-- The dotted keys that lead from the table `header` to a pair behind `parents`. -/
def between (header : Path) : Path → List Path
  | [] => []
  | k :: parents => (header ++ [k]) :: between (header ++ [k]) parents

/-- The document after a pair. -/
def addPair (d : Document) (parents : Path) (key : String) (v : Value) : Option Document :=
  let ways := between d.header parents
  let parents := d.header ++ parents
  if ways.any d.headed.contains || covers d.complete parents then none
  else
    (alterTable true (addNew key v) parents d.entries).map fun es =>
      { d with
        entries := es
        pending := ways ++ d.pending
        complete := if isComposed v then (parents ++ [key]) :: d.complete else d.complete }

/-- The document after a statement. -/
def perform (d : Document) : Statement → Option Document
  | .table parents key => d.openTable parents key
  | .listTable parents key => d.openListTable parents key
  | .pair parents key v => d.addPair parents key v

/-- The document after the statements of a text, one a line. -/
def performAll : (fuel : Nat) → Document → List Char → Except Fault Document
  | 0, _, _ => .error .malformed
  | fuel + 1, d, s =>
    match skipBlank s with
    | [] => .ok d
    | '\n' :: s => performAll fuel d s
    | '#' :: s => (orMalformed (endLine ('#' :: s))).bind (performAll fuel d)
    | s =>
      (statement fuel s).bind fun (st, s) =>
        (orMalformed (d.perform st)).bind fun d =>
          (orMalformed (endLine s)).bind (performAll fuel d)

end Document

/-- The table that a text describes, or the first fault in it.  Each step of a reader takes a
character at least, or leads from a value to a part of it. -/
def parse (s : List Char) : Except Fault Value :=
  (Document.performAll (2 * s.length + 4) {} s).map fun d => .map d.entries

end KeyLayers.Toml
