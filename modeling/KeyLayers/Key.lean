import KeyLayers.Modifier
import KeyLayers.Text.Blank
import KeyLayers.Text.Lowercase

/-!
# Keys and their spelling

A key is named by a text.  People may write it with blanks around it, in any case, and under an
alias; the canonical spelling has no blanks at its ends and is in lower case.

## Main definitions

* `canonical` — the canonical spelling of a text.
* `KeyCode.ofText` — the key that a text names.
* `Aliases`, `Aliases.canonical`, `Aliases.resolve` — other names for keys and modifiers.
* `SpellingError` — why a key or a chord is not understood.
-/

namespace KeyLayers

/-- The name of a key. -/
abbrev KeyCode := String

/-- The canonical spelling of a text: without blanks at its ends, in lower case. -/
def canonical (s : String) : String := String.ofList (Text.lower (Text.strip s.toList))

/-- Why a key or a chord is not understood. -/
inductive SpellingError
  /-- The name of a key is blank. -/
  | blankKey
  /-- A chord is blank. -/
  | blankChord
  /-- The text between the parts of a chord is empty. -/
  | emptySeparator
  /-- A part of the chord is blank. -/
  | blankPart (chord : String)
  /-- The chord has not exactly one key that is no modifier. -/
  | notOneKey (chord : String)
  /-- There is no modifier of this name. -/
  | unknownModifier (name : String)
  deriving DecidableEq, Repr

/-- The wording of a spelling error. -/
def SpellingError.message : SpellingError → String
  | .blankKey => "key is empty"
  | .blankChord => "expression is empty"
  | .emptySeparator => "empty separator"
  | .blankPart chord => "invalid expression (empty token): " ++ Text.quoted chord
  | .notOneKey chord => "emit expression must have exactly one key: " ++ Text.quoted chord
  | .unknownModifier name => Text.quoted name ++ " is not a valid Modifier"

/-- The key that a text names. -/
def KeyCode.ofText (s : String) : Except SpellingError KeyCode :=
  let key := canonical s
  if key = "" then .error .blankKey else .ok key

/-- The key that a value names, through its text. -/
def KeyCode.ofValue (v : Value) : Except SpellingError KeyCode := KeyCode.ofText v.display

/-- The modifier with a name, if there is one. -/
def Modifier.ofName (s : String) : Except SpellingError Modifier :=
  match Modifier.ofName? s with
  | some m => .ok m
  | none => .error (.unknownModifier s)

/-- Other names for keys or modifiers. -/
abbrev Aliases := OrderedMap String

namespace Aliases

/-- The aliases in canonical spelling, on both sides. -/
def canonical (a : Aliases) : Aliases :=
  .ofList (a.entries.map fun e => (KeyLayers.canonical e.1, KeyLayers.canonical e.2))

/-- The aliases that a value tree gives, through the texts of its values. -/
def ofValue : Value → Aliases
  | .map es => .ofList (es.map fun e => (e.1, e.2.display))
  | _ => .empty

/-- What a name stands for: its alias, or itself. -/
def resolve (a : Aliases) (name : String) : String := (a.find? name).getD name

end Aliases

/-- The key that a text names under aliases. -/
def KeyCode.resolve (aliases : Aliases) (s : String) : Except SpellingError KeyCode :=
  (KeyCode.ofText s).map aliases.resolve

end KeyLayers
