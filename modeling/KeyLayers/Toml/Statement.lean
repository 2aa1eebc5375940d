import KeyLayers.Toml.Literal
import KeyLayers.Toml.Table

/-!
# TOML: values and statements

A file is a list of statements, one a line: the head of a table, the head of a table in a list, or a
key with its value.

## Main definitions

* `value` — a value of any kind.
* `Statement`, `statement` — a statement, and the one at the start of a line.
* `endLine` — what may stand behind a statement.
-/

namespace KeyLayers.Toml

/-- A dotted key: the parts but the last, the last part, and the rest of the text without blanks at
its start. -/
def dottedKey : (fuel : Nat) → List Char → Reading (Path × String)
  | 0, _ => none
  | fuel + 1, s =>
    (keyPart s).bind fun (part, rest) =>
      match skipBlank rest with
      | '.' :: rest =>
        (dottedKey fuel (skipBlank rest)).map fun p => ((part :: p.1.1, p.1.2), p.2)
      | rest => some (([], part), rest)

/-- A text of any kind, from its opening quotes on. -/
def textValue : List Char → Reading Value
  | '"' :: '"' :: '"' :: s =>
    (basicLines .nothing (skipLineEnd s)).map fun p => (.text (String.ofList p.1), p.2)
  | '"' :: s => (basicText s).map fun p => (.text (String.ofList p.1), p.2)
  | '\'' :: '\'' :: '\'' :: s =>
    (literalLines (skipLineEnd s)).map fun p => (.text (String.ofList p.1), p.2)
  | '\'' :: s => (literalText s).map fun p => (.text (String.ofList p.1), p.2)
  | _ => none

/-- A moment or a number; a day must be one of the calendar. -/
def momentOrNumber (s : List Char) : Parsing Value :=
  match moment s with
  | some (m, rest) =>
    if Moment.inCalendar m then .ok (.moment m, rest) else .error .malformed
  | none => number s

mutual

/-- A value. -/
def value : (fuel : Nat) → List Char → Parsing Value
  | 0, _ => .error .malformed
  | fuel + 1, s =>
    match s with
    | '"' :: _ => orMalformed (textValue s)
    | '\'' :: _ => orMalformed (textValue s)
    | 't' :: 'r' :: 'u' :: 'e' :: s => .ok (.bool true, s)
    | 'f' :: 'a' :: 'l' :: 's' :: 'e' :: s => .ok (.bool false, s)
    | '[' :: s => (listItems fuel s).map fun p => (.list p.1, p.2)
    | '\x7b' :: s =>
      match skipBlank s with
      | '\x7d' :: s => .ok (.map [], s)
      | s => (tableItems fuel {} s).map fun p => (.map p.1, p.2)
    | s => momentOrNumber s

/-- The items of a list up to its closing bracket. -/
def listItems : (fuel : Nat) → List Char → Parsing (List Value)
  | 0, _ => .error .malformed
  | fuel + 1, s =>
    (orMalformed (skipFiller false s)).bind fun s =>
      match s with
      | ']' :: s => .ok ([], s)
      | s =>
        (value fuel s).bind fun (v, s) =>
          (orMalformed (skipFiller false s)).bind fun s =>
            match s with
            | ']' :: s => .ok ([v], s)
            | ',' :: s => (listItems fuel s).map fun p => (v :: p.1, p.2)
            | _ => .error .malformed

/-- The further pairs of a table in one line up to its closing brace. -/
def tableItems : (fuel : Nat) → InlineTable → List Char → Parsing (Entries Value)
  | 0, _, _ => .error .malformed
  | fuel + 1, t, s =>
    (pair fuel s).bind fun (((parents, key), v), s) =>
      (orMalformed (t.add parents key v)).bind fun t =>
        match skipBlank s with
        | '\x7d' :: s => .ok (t.entries, s)
        | ',' :: s => tableItems fuel t (skipBlank s)
        | _ => .error .malformed

/-- A dotted key and its value. -/
def pair : (fuel : Nat) → List Char → Parsing ((Path × String) × Value)
  | 0, _ => .error .malformed
  | fuel + 1, s =>
    (orMalformed (dottedKey fuel s)).bind fun (key, s) =>
      match s with
      | '=' :: s => (value fuel (skipBlank s)).map fun p => ((key, p.1), p.2)
      | _ => .error .malformed

end

/-- A statement. -/
inductive Statement
  /-- The head of a table: the following pairs belong to it. -/
  | table (parents : Path) (key : String)
  /-- The head of a further table in a list. -/
  | listTable (parents : Path) (key : String)
  /-- A key and its value. -/
  | pair (parents : Path) (key : String) (v : Value)

/-- The statement at the start of a line. -/
def statement (fuel : Nat) : List Char → Parsing Statement
  | '[' :: '[' :: s =>
    (orMalformed (dottedKey fuel (skipBlank s))).bind fun ((parents, key), s) =>
      match s with
      | ']' :: ']' :: s => .ok (.listTable parents key, s)
      | _ => .error .malformed
  | '[' :: s =>
    (orMalformed (dottedKey fuel (skipBlank s))).bind fun ((parents, key), s) =>
      match s with
      | ']' :: s => .ok (.table parents key, s)
      | _ => .error .malformed
  | s => (pair fuel s).map fun (((parents, key), v), s) => (.pair parents key v, s)

/-- The rest of a line that holds nothing more than a comment, after its end. -/
def endLine (s : List Char) : Option (List Char) :=
  (skipComment (skipBlank s)).bind fun s =>
    match s with
    | [] => some []
    | '\n' :: s => some s
    | _ => none

end KeyLayers.Toml
