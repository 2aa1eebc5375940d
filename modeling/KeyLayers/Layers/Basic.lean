import KeyLayers.Action

/-!
# Layers

Under the hyper chord each root key either fires a command or opens a sublayer, whose keys fire
commands while the root key is held.

## Main definitions

* `Entry` — a command or a sublayer.
* `Layers` — the entries of the root keys, in order.
* `Entry.schema`, `Layers.schema` — reading them from value trees.
* `Entry.toValue`, `Layers.toValue` — their value trees.
-/

namespace KeyLayers

/-- What a root key is bound to. -/
inductive Entry
  /-- A command. -/
  | leaf (command : Command)
  /-- A sublayer: the commands of its keys, in order. -/
  | sublayer (commands : OrderedMap Command)
  deriving DecidableEq, Repr

/-- The entries of the root keys, in order. -/
structure Layers where
  /-- The entries. -/
  entries : OrderedMap Entry
  deriving DecidableEq, Repr

namespace Entry

/-- Reads a command of a root key. -/
def leafSchema : Schema Entry where
  title := "Leaf"
  decode := .record "Leaf" fun es =>
    (fun _ command => .leaf command)
      <$> Decoder.kind "leaf" es
      <*> Decoder.required "command" Command.schema.decode es

/-- Reads the commands of a sublayer. -/
def commandsSchema : Schema (OrderedMap Command) where
  title := "Sublayer"
  decode := .record "Sublayer" fun es =>
    (fun _ commands => commands)
      <$> Decoder.kind "sublayer" es
      <*> Decoder.defaulted "commands" .empty (.mappingOf Command.schema.decode) es

/-- Reads a sublayer. -/
def sublayerSchema : Schema Entry where
  title := commandsSchema.title
  decode v := .sublayer <$> commandsSchema.decode v

/-- Reads an entry of either kind. -/
def schema : Schema Entry where
  title := "tagged-union[Leaf,Sublayer]"
  decode := .tagged "kind"
    [("leaf", leafSchema.decode), ("sublayer", sublayerSchema.decode)]

/-- The value tree of an entry. -/
def toValue (f : Form) : Entry → Value
  | .leaf command => f.record [("kind", .text "leaf"), ("command", command.toValue f)]
  | .sublayer commands => f.record
      [("kind", .text "sublayer"), ("commands", .map (commands.map (Command.toValue f)).entries)]

/-- The name of an entry's kind in messages. -/
def kindName : Entry → String
  | .leaf _ => "Leaf"
  | .sublayer _ => "Sublayer"

/-- Whether an entry is a sublayer. -/
def isSublayer : Entry → Bool
  | .leaf _ => false
  | .sublayer _ => true

end Entry

namespace Layers

/-- Reads layers. -/
def schema : Schema Layers where
  title := "RootSpec"
  decode := .record "RootSpec" fun es =>
    Layers.mk <$> Decoder.defaulted "layers" .empty (.mappingOf Entry.schema.decode) es

/-- The value tree of layers. -/
def toValue (f : Form) (l : Layers) : Value :=
  f.record [("layers", .map (l.entries.map (Entry.toValue f)).entries)]

end Layers

end KeyLayers
