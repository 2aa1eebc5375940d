import KeyLayers.Action
import KeyLayers.Key

/-!
# Chords

A chord is written as its parts with a separator between them, as in `command+shift+left_arrow`.
Exactly one part is a key; the others are modifiers, in any place and maybe repeated.

## Main definitions

* `splitOn` — the pieces of a text between the occurrences of a separator.
* `Chord.parts` — the parts of a chord in canonical spelling.
* `KeyPress.ofParts` — the key press of given parts.
* `KeyPress.ofChord` — the key press that a chord writes.
-/

namespace KeyLayers

/-- The pieces of a text between the occurrences of `separator`, from left to right.  The first
`skipped` characters belong to an occurrence that has begun. -/
def splitOn (separator : List Char) : (skipped : Nat) → List Char → List (List Char)
  | _, [] => [[]]
  | skipped + 1, _ :: s => splitOn separator skipped s
  | 0, c :: s =>
    if separator.isPrefixOf (c :: s) then [] :: splitOn separator (separator.length - 1) s
    else
      match splitOn separator 0 s with
      | [] => [[c]]
      | piece :: pieces => (c :: piece) :: pieces

/-- The parts of a chord in canonical spelling; none of them may be blank. -/
def Chord.parts (separator chord : String) : Except SpellingError (List String) :=
  let stripped := Text.strip chord.toList
  if stripped.isEmpty then .error .blankChord
  else if separator = "" then .error .emptySeparator
  else
    let parts := (splitOn separator.toList 0 stripped).map fun p => canonical (String.ofList p)
    if parts.contains "" then .error (.blankPart (String.ofList stripped)) else .ok parts

/-- The key press of the given parts: the one that names no modifier is the key, and of equal
modifiers the first counts. -/
def KeyPress.ofParts? (parts : List String) (translate : Bool) : Option KeyPress :=
  match parts.filter fun p => (Modifier.ofName? p).isNone with
  | [key] => some ⟨key, (parts.filterMap Modifier.ofName?).eraseDups, translate⟩
  | _ => none

/-- The key press that a chord writes.  A part may be an alias of a modifier, and what it stands for
an alias of a key. -/
def KeyPress.ofChord (keyAliases modifierAliases : Aliases) (separator : String)
    (translate : Bool) (chord : String) : Except SpellingError KeyPress :=
  match Chord.parts separator chord with
  | .error e => .error e
  | .ok parts =>
    let names := parts.map fun p =>
      keyAliases.canonical.resolve (modifierAliases.canonical.resolve p)
    match KeyPress.ofParts? names translate with
    | some press => .ok press
    | none => .error (.notOneKey chord)

/-- The separator of chords in descriptions. -/
def Chord.plus : String := "+"

namespace Command

/-- Runs a command in a shell. -/
def shell (command : String) (description : Option String := none) : Command :=
  ⟨[.shell command], description⟩

/-- Opens a file or an address. -/
def openTarget (target : String) : Command := shell ("open " ++ target) (some ("Open " ++ target))

/-- Opens an application by its name. -/
def openApp (name : String) : Command := openTarget ("-a '" ++ name ++ ".app'")

/-- Sends a chord. -/
def chord (chord : String) (description : Option String := none) : Except SpellingError Command :=
  (KeyPress.ofChord .empty .empty Chord.plus false chord).map fun press =>
    ⟨[.keyPress press], description⟩

end Command

end KeyLayers
