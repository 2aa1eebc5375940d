import KeyLayers.Target
import KeyLayers.Layers.OfConfig

/-!
# Sessions

In a session layers are edited step by step and looked at in between.  A step that fails leaves the
layers as they are.  Writing under a key that is present keeps its place.

## Main definitions

* `Session`, `Edit` — the state, and the steps that change it.
* `EditError` — why a step fails.
* `Session.edit` — the state after a step.
* `Session.commandsOf` — the commands of a sublayer.
-/

namespace KeyLayers

/-- Why a step fails. -/
inductive EditError
  /-- A value tree does not fit. -/
  | refusal (r : Refusal)
  /-- A key is not there. -/
  | missingKey (key : String)
  /-- An entry is no sublayer. -/
  | noSublayer (kindName : String)
  /-- A configuration describes no layers. -/
  | config (e : ConfigError)
  deriving DecidableEq, Repr

/-- The wording of an error. -/
def EditError.message : EditError → String
  | .refusal r => r.message
  | .missingKey key => Text.quoted key
  | .noSublayer kindName => s!"'{kindName}' object has no attribute 'commands'"
  | .config e => e.message

/-- A step that changes the layers. -/
inductive Edit
  /-- Writes an entry under a root key. -/
  | putLayer (key : KeyCode) (entry : Value)
  /-- Erases a root key. -/
  | deleteLayer (key : KeyCode)
  /-- Writes a command under a key of a sublayer. -/
  | putCommand (layer key : KeyCode) (command : Value)
  /-- Erases a key of a sublayer. -/
  | deleteCommand (layer key : KeyCode)
  /-- Assigns the layers as a whole, which is never allowed. -/
  | assignLayers
  /-- Assigns the kind of an entry, which is never allowed. -/
  | assignKind (layer : KeyCode)
  /-- Starts over with the layers that a configuration describes. -/
  | parse (config : Value)

/-- Layers under construction, and what they are compiled for. -/
structure Session where
  /-- The layers. -/
  layers : Layers
  /-- What they are compiled for. -/
  target : Target
  deriving DecidableEq, Repr

namespace Session

/-- The session with other entries. -/
def withEntries (s : Session) (entries : OrderedMap Entry) : Session :=
  { s with layers := ⟨entries⟩ }

/-- The entry of a root key. -/
def entryOf (s : Session) (key : KeyCode) : Except EditError Entry :=
  match s.layers.entries.find? key with
  | some entry => .ok entry
  | none => .error (.missingKey key)

/-- The commands of a sublayer. -/
def commandsOf (s : Session) (key : KeyCode) : Except EditError (OrderedMap Command) :=
  match s.entryOf key with
  | .ok (.sublayer commands) => .ok commands
  | .ok entry => .error (.noSublayer entry.kindName)
  | .error e => .error e

/-- The refusal to assign a field of an entry or of the layers. -/
def frozen (title field : String) : EditError := .refusal ⟨title, [⟨[.name field], .frozen⟩]⟩

/-- The session after a step. -/
def edit (s : Session) : Edit → Except EditError Session
  | .putLayer key v =>
    match Entry.schema.validate v with
    | .ok entry => .ok (s.withEntries (s.layers.entries.insert key entry))
    | .error r => .error (.refusal r)
  | .deleteLayer key =>
    (s.entryOf key).map fun _ => s.withEntries (s.layers.entries.erase key)
  | .putCommand layer key v =>
    match Command.schema.validate v with
    | .ok command =>
      (s.commandsOf layer).map fun commands =>
        s.withEntries (s.layers.entries.insert layer (.sublayer (commands.insert key command)))
    | .error r => .error (.refusal r)
  | .deleteCommand layer key =>
    match s.commandsOf layer with
    | .ok commands =>
      if commands.contains key then
        .ok (s.withEntries (s.layers.entries.insert layer (.sublayer (commands.erase key))))
      else .error (.missingKey key)
    | .error e => .error e
  | .assignLayers => .error (frozen Layers.schema.title "layers")
  | .assignKind layer =>
    match s.entryOf layer with
    | .ok entry => .error (frozen entry.kindName "kind")
    | .error e => .error e
  | .parse v =>
    match Config.schema.validate v with
    | .ok config =>
      match config.toLayers with
      | .ok layers => .ok { s with layers := layers }
      | .error e => .error (.config e)
    | .error r => .error (.refusal r)

/-- The root keys, in order. -/
def keys (s : Session) : List KeyCode := s.layers.entries.keys

/-- The rules of the layers. -/
def rules (s : Session) : List Host.Rule := s.target.rules s.layers

/-- The manipulators of a sublayer. -/
def manipulatorsOf (s : Session) (key : KeyCode) : Except EditError (List Host.Manipulator) :=
  (s.commandsOf key).map fun commands =>
    s.target.sublayerManipulators key commands (.ofLayers s.layers)

end Session

end KeyLayers
