import KeyLayers.Modifier
import KeyLayers.Schema.Scalar

/-!
# The rules of the host

The host remaps keys by rules.  A manipulator waits for a key with modifiers under conditions on
variables, and sends events when the key goes down and when it comes up again.

## Main definitions

* `Host.Modifier` — the modifiers that the host knows, among them the one that stands for any.
* `Host.Trigger`, `Host.Event` — what a manipulator waits for and what it sends.
* `Host.Manipulator`, `Host.Rule`, `Host.RuleFile` — manipulators, and groups of them.
* `Host.Replacement`, `Host.Profile` — function keys, and the part of a profile that
  holds them beside the rules.
-/

namespace KeyLayers.Host

/-- A modifier of the host. -/
inductive Modifier
  /-- Any modifiers, or none. -/
  | any
  /-- A modifier key. -/
  | key (m : KeyLayers.Modifier)
  deriving DecidableEq, Repr

/-- The modifiers, in order. -/
def Modifier.all : List Modifier := .any :: KeyLayers.Modifier.all.map .key

/-- The name of a modifier. -/
def Modifier.name : Modifier → String
  | .any => "any"
  | .key m => m.name

/-- The kinds of conditions. -/
inductive ConditionKind
  /-- A variable has a value. -/
  | variableIf
  deriving DecidableEq, Repr

/-- The name of a kind. -/
def ConditionKind.name : ConditionKind → String
  | .variableIf => "variable_if"

/-- A condition of which only the kind is known. -/
structure BareCondition where
  /-- The kind. -/
  kind : ConditionKind
  deriving DecidableEq, Repr

/-- The condition that a variable has a value. -/
structure Condition where
  /-- The variable. -/
  name : String
  /-- Its value. -/
  value : Scalar
  deriving DecidableEq, Repr

/-- The modifiers of a key that a manipulator waits for. -/
structure TriggerModifiers where
  /-- Those that must be held. -/
  mandatory : Option (List Modifier) := none
  /-- Those that may be held. -/
  optional : Option (List Modifier) := none
  deriving DecidableEq, Repr

/-- What a manipulator waits for. -/
structure Trigger where
  /-- The key. -/
  keyCode : String
  /-- The modifiers. -/
  modifiers : Option TriggerModifiers := none
  deriving DecidableEq, Repr

/-- A variable and the value that it is set to. -/
structure Assignment where
  /-- The name. -/
  name : String
  /-- The value. -/
  value : Scalar
  deriving DecidableEq, Repr

/-- What a manipulator sends. -/
structure Event where
  /-- A key. -/
  keyCode : Option String := none
  /-- A media key. -/
  consumerKeyCode : Option String := none
  /-- A key that only one vendor's keyboards have. -/
  vendorKeyCode : Option String := none
  /-- A shell command. -/
  shellCommand : Option String := none
  /-- A variable to set. -/
  assignment : Option Assignment := none
  /-- The modifiers of the key. -/
  modifiers : Option (List Modifier) := none
  deriving DecidableEq, Repr

/-- Waits for a key under conditions and sends events. -/
structure Manipulator where
  /-- The type. -/
  type : String := "basic"
  /-- The description. -/
  description : Option String := none
  /-- The conditions, all of which must hold. -/
  conditions : List Condition := []
  /-- What to wait for. -/
  trigger : Trigger
  /-- What to send when the key goes down. -/
  onPress : Option (List Event) := none
  /-- What to send when the key comes up. -/
  onRelease : Option (List Event) := none
  deriving DecidableEq, Repr

/-- A key that is replaced wherever it is pressed. -/
structure Replacement where
  /-- The key. -/
  trigger : Trigger
  /-- What it is replaced by. -/
  events : List Event
  deriving DecidableEq, Repr

/-- A group of manipulators. -/
structure Rule where
  /-- The description. -/
  description : String
  /-- The manipulators, in the order in which they are tried. -/
  manipulators : List Manipulator
  deriving DecidableEq, Repr

/-- A file of rules. -/
structure RuleFile where
  /-- The title. -/
  title : String
  /-- The rules, in order. -/
  rules : List Rule
  deriving DecidableEq, Repr

/-- The rules of a profile. -/
structure RuleBlock where
  /-- The rules, in order. -/
  rules : List Rule := []
  deriving DecidableEq, Repr

/-- The parts of a profile that are made from a description. -/
structure Profile where
  /-- The rules. -/
  block : RuleBlock := {}
  /-- The function keys. -/
  functionKeys : List Replacement := []
  deriving DecidableEq, Repr

end KeyLayers.Host
