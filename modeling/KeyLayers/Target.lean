import KeyLayers.Host.Rule
import KeyLayers.Registry
import KeyLayers.Translation

/-!
# From layers to rules

Each root key gives one rule.  The rule of a command has one manipulator, which waits for the root
key under the hyper chord.  The rule of a sublayer begins with its *toggle*, which sets the
sublayer's variable while the root key is held and fires only while every other sublayer is closed;
after it comes one *dispatch* for each command, which waits for the command's key with any
modifiers while the variable is set.

## Main definitions

* `Target` — the layout and the hyper chord to compile for.
* `Target.event` — an action as an event of the host.
* `Target.toggle`, `Target.dispatch`, `Target.leaf` — the manipulators.
* `Target.sublayerManipulators` — the manipulators of a sublayer.
* `Target.rules` — the rules of layers.
-/

namespace KeyLayers

open Host

/-- What layers are compiled for. -/
structure Target where
  /-- The layout. -/
  translation : Translation := .identity
  /-- The hyper chord. -/
  hyper : List KeyLayers.Modifier := hyperChord
  deriving DecidableEq, Repr

/-- A value that is no action was given for one. -/
structure UnsupportedAction where
  /-- The name of the value's kind. -/
  kindName : String
  deriving DecidableEq, Repr

/-- The wording of an unsupported action. -/
def UnsupportedAction.message (e : UnsupportedAction) : String :=
  "unsupported action: " ++ e.kindName

/-- The answer to a value tree that stands for an action without having been read as one. -/
def UnsupportedAction.ofValue (v : Value) : UnsupportedAction := ⟨v.kindName⟩

/-- The event that sets a variable. -/
def assign (name : String) (value : Scalar) : Event :=
  { assignment := some ⟨name, value⟩ }

/-- The condition that a variable has an integer value. -/
def variableIs (name : String) (value : Int) : Condition := ⟨name, .int value⟩

namespace Target

/-- The event of an action.  Only a key press that asks for it goes through the layout. -/
def event (t : Target) : Action → Event
  | .keyPress p =>
    { keyCode := some (if p.translate then t.translation.apply p.keyCode else p.keyCode)
      modifiers := if p.modifiers.isEmpty then none else some (p.modifiers.map .key) }
  | .consumerKey code => { consumerKeyCode := some code }
  | .vendorKey code => { vendorKeyCode := some code }
  | .shell command => { shellCommand := some command }
  | .setVariable name value => assign name value

/-- A root key under the hyper chord. -/
def hyperTrigger (t : Target) (key : KeyCode) : Trigger :=
  ⟨t.translation.apply key, some { mandatory := some (t.hyper.map .key) }⟩

/-- The manipulator that opens the sublayer of `key` while no other one is open. -/
def toggle (t : Target) (registry : Registry) (key : KeyCode) : Manipulator where
  description := some ("Toggle Hyper sublayer " ++ key)
  conditions := (registry.others key).map fun name => variableIs name 0
  trigger := t.hyperTrigger key
  onPress := some [assign (sublayerVariable key) (.int 1)]
  onRelease := some [assign (sublayerVariable key) (.int 0)]

/-- The manipulator of a command in the sublayer of `key`.  The modifiers that it waits for are not
sent along, so that a held hyper chord does not reach the command's events. -/
def dispatch (t : Target) (key : KeyCode) (commandKey : KeyCode) (command : Command) :
    Manipulator where
  description := command.description
  conditions := [variableIs (sublayerVariable key) 1]
  trigger := ⟨t.translation.apply commandKey, some { mandatory := some [.any] }⟩
  onPress := some (command.actions.map t.event)

/-- The manipulator of a root key that fires a command. -/
def leaf (t : Target) (key : KeyCode) (command : Command) : Manipulator where
  description := command.description
  trigger := t.hyperTrigger key
  onPress := some (command.actions.map t.event)

/-- The manipulators of the sublayer of `key`: its toggle, then one dispatch for each command. -/
def sublayerManipulators (t : Target) (key : KeyCode) (commands : OrderedMap Command)
    (registry : Registry) : List Manipulator :=
  t.toggle registry key :: commands.entries.map fun e => t.dispatch key e.1 e.2

/-- The rule of a root key. -/
def rule (t : Target) (registry : Registry) (key : KeyCode) : Entry → Rule
  | .leaf command => ⟨"Hyper Key + " ++ t.translation.apply key, [t.leaf key command]⟩
  | .sublayer commands =>
    ⟨"Hyper Key sublayer \"" ++ key ++ "\"", t.sublayerManipulators key commands registry⟩

/-- The rules of layers, one for each root key, in order. -/
def rules (t : Target) (l : Layers) : List Rule :=
  l.entries.entries.map fun e => t.rule (.ofLayers l) e.1 e.2

end Target

end KeyLayers
