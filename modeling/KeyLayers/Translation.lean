import KeyLayers.OrderedMap
import KeyLayers.Text.Quoted

/-!
# Keyboard layouts

The host names keys by their places on a QWERTY keyboard.  On another layout the letter that a
person thinks of sits on another place; a translation gives that place.  It may be partial: a key
without an entry is its own place.

## Main definitions

* `Translation`, `Translation.apply` — from keys to places.
* `Layout`, `Layout.table` — the known layouts.
* `Translation.ofLayout` — the translation of a named layout with further entries.
-/

namespace KeyLayers

/-- A relabelling of keys. -/
structure Translation where
  /-- The keys that are relabelled. -/
  table : OrderedMap String
  deriving DecidableEq, Repr

namespace Translation

/-- The translation that leaves every key. -/
def identity : Translation := ⟨.empty⟩

/-- The place of a key. -/
def apply (t : Translation) (key : String) : String := (t.table.find? key).getD key

/-- Whether a key has an entry. -/
def mentions (t : Translation) (key : String) : Bool := t.table.contains key

@[simp] theorem apply_identity (key : String) : identity.apply key = key := rfl

end Translation

/-- A known keyboard layout. -/
inductive Layout
  /-- The layout by which the host names places. -/
  | qwerty
  /-- The Colemak layout. -/
  | colemak
  deriving DecidableEq, Repr

namespace Layout

/-- The layouts, ordered by name. -/
def all : List Layout := [.colemak, .qwerty]

/-- The name of a layout. -/
def name : Layout → String
  | .qwerty => "qwerty"
  | .colemak => "colemak"

/-- The letters of Colemak and the places where they sit. -/
def colemakEntries : Entries String :=
  [("f", "e"), ("p", "r"), ("g", "t"), ("j", "y"), ("l", "u"), ("u", "i"), ("y", "o"),
   ("semicolon", "p"), ("r", "s"), ("s", "d"), ("t", "f"), ("d", "g"), ("n", "j"), ("e", "k"),
   ("i", "l"), ("o", "semicolon"), ("k", "n")]

/-- The keys that are not at their own place. -/
def table : Layout → OrderedMap String
  | .qwerty => .empty
  | .colemak => ⟨colemakEntries, by decide⟩

/-- The layout with a name. -/
def ofName? (s : String) : Option Layout := all.find? fun l => l.name = s

end Layout

/-- No layout has this name. -/
structure UnknownLayout where
  /-- The name. -/
  name : String
  deriving DecidableEq, Repr

/-- The wording of an unknown layout. -/
def UnknownLayout.message (e : UnknownLayout) : String :=
  let known := ", ".intercalate (Layout.all.map Layout.name)
  s!"unknown layout: {Text.quoted e.name} (expected one of: {known})"

/-- The translation of a named layout; the entries of `extra` come on top. -/
def Translation.ofLayout (name : String) (extra : OrderedMap String) :
    Except UnknownLayout Translation :=
  match Layout.ofName? name with
  | some layout => .ok ⟨layout.table.insertAll extra.entries⟩
  | none => .error ⟨name⟩

end KeyLayers
