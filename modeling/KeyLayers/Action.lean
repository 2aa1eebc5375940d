import KeyLayers.Modifier
import KeyLayers.Schema.Form
import KeyLayers.Schema.Scalar

/-!
# Actions and commands

What happens when a key fires: a command is a list of actions in order, with an optional
description.

## Main definitions

* `KeyPress` — a key with modifiers, sent to the host.
* `Action` — the kinds of effects.
* `Command` — actions in order.
* `Action.schema`, `Command.schema` — reading actions and commands from value trees.
* `Action.toValue`, `Command.toValue` — their value trees.
-/

namespace KeyLayers

/-- A key that is pressed together with modifiers. -/
structure KeyPress where
  /-- The key. -/
  keyCode : String
  /-- The modifiers, in order. -/
  modifiers : List Modifier := []
  /-- Whether the key goes through the layout, as the keys that fire commands do. -/
  translate : Bool := false
  deriving DecidableEq, Repr

/-- An effect on the host. -/
inductive Action
  /-- Presses a key. -/
  | keyPress (press : KeyPress)
  /-- Presses a media key. -/
  | consumerKey (code : String)
  /-- Presses a key that only one vendor's keyboards have. -/
  | vendorKey (code : String)
  /-- Runs a shell command. -/
  | shell (command : String)
  /-- Sets a variable of the host. -/
  | setVariable (name : String) (value : Scalar)
  deriving DecidableEq, Repr

/-- What happens when a key fires. -/
structure Command where
  /-- The actions, in order. -/
  actions : List Action
  /-- The description, if there is one. -/
  description : Option String := none
  deriving DecidableEq, Repr

/-- The field that tells the members of a union apart, which may be missing where the member is
known. -/
def Decoder.kind (tag : String) (es : Entries Value) : Verdict Unit :=
  defaulted "kind" () (literal tag s!"'{tag}'") es

namespace Action

/-- Reads a key press. -/
def keyPressSchema : Schema KeyPress where
  title := "KeyPress"
  decode := .record "KeyPress" fun es =>
    (fun _ keyCode modifiers translate => ⟨keyCode, modifiers, translate⟩)
      <$> Decoder.kind "key" es
      <*> Decoder.required "key_code" .text es
      <*> Decoder.defaulted "modifiers" [] (.tupleOf Modifier.decoder) es
      <*> Decoder.defaulted "translate" false .boolean es

/-- Reads a media key. -/
def consumerKeySchema : Schema Action where
  title := "ConsumerKey"
  decode := .record "ConsumerKey" fun es =>
    (fun _ code => .consumerKey code)
      <$> Decoder.kind "consumer" es
      <*> Decoder.required "code" .text es

/-- Reads a vendor's key. -/
def vendorKeySchema : Schema Action where
  title := "VendorKey"
  decode := .record "VendorKey" fun es =>
    (fun _ code => .vendorKey code)
      <$> Decoder.kind "vendor" es
      <*> Decoder.required "code" .text es

/-- Reads a shell command. -/
def shellSchema : Schema Action where
  title := "Shell"
  decode := .record "Shell" fun es =>
    (fun _ command => .shell command)
      <$> Decoder.kind "shell" es
      <*> Decoder.required "command" .text es

/-- Reads the setting of a variable. -/
def setVariableSchema : Schema Action where
  title := "SetVariable"
  decode := .record "SetVariable" fun es =>
    (fun _ name value => .setVariable name value)
      <$> Decoder.kind "set_variable" es
      <*> Decoder.required "name" .text es
      <*> Decoder.required "value" Scalar.decoder es

/-- Reads an action of any kind. -/
def schema : Schema Action where
  title := "tagged-union[KeyPress,ConsumerKey,VendorKey,Shell,SetVariable]"
  decode := .tagged "kind"
    [("key", fun v => .keyPress <$> keyPressSchema.decode v),
     ("consumer", consumerKeySchema.decode),
     ("vendor", vendorKeySchema.decode),
     ("shell", shellSchema.decode),
     ("set_variable", setVariableSchema.decode)]

/-- The value tree of an action. -/
def toValue (f : Form) : Action → Value
  | .keyPress p => f.record
      [("kind", .text "key"), ("key_code", .text p.keyCode),
       ("modifiers", .list (p.modifiers.map Modifier.toValue)), ("translate", .bool p.translate)]
  | .consumerKey code => f.record [("kind", .text "consumer"), ("code", .text code)]
  | .vendorKey code => f.record [("kind", .text "vendor"), ("code", .text code)]
  | .shell command => f.record [("kind", .text "shell"), ("command", .text command)]
  | .setVariable name value => f.record
      [("kind", .text "set_variable"), ("name", .text name), ("value", value.toValue)]

/-- The name of an action's kind in messages. -/
def kindName : Action → String
  | .keyPress _ => "KeyPress"
  | .consumerKey _ => "ConsumerKey"
  | .vendorKey _ => "VendorKey"
  | .shell _ => "Shell"
  | .setVariable .. => "SetVariable"

end Action

namespace Command

/-- Reads a command. -/
def schema : Schema Command where
  title := "Command"
  decode := .record "Command" fun es =>
    (fun actions description => ⟨actions, description⟩)
      <$> Decoder.required "actions" (.tupleOf Action.schema.decode) es
      <*> Decoder.defaulted "description" none (.nullable .text) es

/-- The value tree of a command. -/
def toValue (f : Form) (c : Command) : Value :=
  f.record
    [("actions", .list (c.actions.map (Action.toValue f))),
     ("description", .ofOption .text c.description)]

end Command

end KeyLayers
