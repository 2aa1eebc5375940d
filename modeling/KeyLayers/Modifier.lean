import KeyLayers.Schema.Decoder

/-!
# Modifiers

The keys that are held while another one is pressed.  Some come in a left and a right variant, and a
name without a side stands for either.

## Main definitions

* `Modifier`, `Modifier.all` — the modifiers in order.
* `Modifier.name`, `Modifier.ofName?` — their names.
* `hyperChord` — the four modifiers that open layers unless a description names others.
-/

namespace KeyLayers

/-- A modifier. -/
inductive Modifier
  /-- Either command key. -/
  | command
  /-- Either control key. -/
  | control
  /-- Either option key. -/
  | option
  /-- Either shift key. -/
  | shift
  /-- The function key. -/
  | fn
  /-- The caps lock key. -/
  | capsLock
  /-- The left command key. -/
  | leftCommand
  /-- The left control key. -/
  | leftControl
  /-- The left option key. -/
  | leftOption
  /-- The left shift key. -/
  | leftShift
  /-- The right command key. -/
  | rightCommand
  /-- The right control key. -/
  | rightControl
  /-- The right option key. -/
  | rightOption
  /-- The right shift key. -/
  | rightShift
  deriving DecidableEq, Repr

namespace Modifier

/-- The modifiers, in order. -/
def all : List Modifier :=
  [.command, .control, .option, .shift, .fn, .capsLock, .leftCommand, .leftControl, .leftOption,
   .leftShift, .rightCommand, .rightControl, .rightOption, .rightShift]

/-- The name of a modifier. -/
def name : Modifier → String
  | .command => "command"
  | .control => "control"
  | .option => "option"
  | .shift => "shift"
  | .fn => "fn"
  | .capsLock => "caps_lock"
  | .leftCommand => "left_command"
  | .leftControl => "left_control"
  | .leftOption => "left_option"
  | .leftShift => "left_shift"
  | .rightCommand => "right_command"
  | .rightControl => "right_control"
  | .rightOption => "right_option"
  | .rightShift => "right_shift"

/-- The modifier with a name. -/
def ofName? (s : String) : Option Modifier := all.find? fun m => m.name = s

/-- Reads a modifier by its name. -/
def decoder : Decoder Modifier := .choice all name

/-- The value tree of a modifier. -/
def toValue (m : Modifier) : Value := .text m.name

theorem mem_all (m : Modifier) : m ∈ all := by cases m <;> decide

/-- A modifier is found by its name. -/
@[simp] theorem ofName?_name (m : Modifier) : ofName? m.name = some m := by cases m <;> decide

/-- Modifiers are told apart by their names. -/
theorem name_injective {m n : Modifier} (h : m.name = n.name) : m = n := by
  have := ofName?_name m
  rw [h, ofName?_name] at this
  exact (Option.some.inj this).symm

/-- A modifier is found by its name, and by no other. -/
theorem ofName?_eq_some_iff {s : String} {m : Modifier} : ofName? s = some m ↔ m.name = s := by
  constructor
  · intro h
    simpa using List.find?_some (p := fun m : Modifier => decide (m.name = s)) h
  · rintro rfl
    exact ofName?_name m

theorem ofName?_eq_none_iff {s : String} : ofName? s = none ↔ ∀ m : Modifier, m.name ≠ s := by
  simp only [Option.eq_none_iff_forall_ne_some, Ne, ofName?_eq_some_iff]

end Modifier

/-- The modifiers that open layers unless a description names others. -/
def hyperChord : List Modifier := [.leftCommand, .leftControl, .leftShift, .leftOption]

end KeyLayers
