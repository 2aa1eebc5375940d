import KeyLayers.Host.Schema
import KeyLayers.Output

/-!
# Assembling rules from checked parts

Every record of the host is made from named arguments, and its schema checks them: a field may be
missing, a value may be of a wrong kind, a modifier may have a name that the host does not know, and
something may be handed over for an action that is none.  Here the rules are made in this way, with
every place where it may fail.  A record that goes into another one is handed over as its value
tree, so that it is checked once more together with the whole.

## Main definitions

* `AssemblyFault` — why a record cannot be made.
* `AssemblyFault.make` — a record from named arguments.
* `Assembler`, `Assembler.ofTarget` — a layout, and a hyper chord in the host's modifiers.
* `Assembler.event`, `Assembler.toggle`, `Assembler.rules`, … — the parts of rules.
* `Target.assemble` — the rules of layers.
* `Config.assemble` — the output of a configuration.
-/

namespace KeyLayers

open Host

/-- Why a record of the host cannot be made. -/
inductive AssemblyFault
  /-- An argument does not fit. -/
  | refusal (r : Refusal)
  /-- The host knows no modifier of this name. -/
  | unknownModifier (name : String)
  /-- What was handed over is no action. -/
  | unsupported (e : UnsupportedAction)
  /-- A function key was given an action that presses no key. -/
  | noKeyAction (e : NoKeyAction)
  deriving DecidableEq, Repr

namespace AssemblyFault

/-- The wording of a fault. -/
def message : AssemblyFault → String
  | .refusal r => r.message
  | .unknownModifier name => Text.quoted name ++ " is not a valid Modifier"
  | .unsupported e => e.message
  | .noKeyAction e => e.message

/-- Makes a record from named arguments. -/
def make {α : Type} (s : Schema α) (arguments : Entries Value) : Except AssemblyFault α :=
  (s.validate (.map arguments)).mapError .refusal

/-- The host's modifier of the same name. -/
def hostModifier (m : KeyLayers.Modifier) : Except AssemblyFault Host.Modifier :=
  match Host.Modifier.all.find? fun n => n.name = m.name with
  | some n => .ok n
  | none => .error (.unknownModifier m.name)

end AssemblyFault

open AssemblyFault

/-- What is handed over for an action. -/
inductive Operand
  /-- An action. -/
  | action (a : Action)
  /-- Anything else. -/
  | other (v : Value)

/-- Makes rules for a layout and a hyper chord. -/
structure Assembler where
  /-- The layout. -/
  translation : Translation
  /-- The hyper chord, in the host's modifiers. -/
  hyper : List Host.Modifier
  deriving DecidableEq, Repr

namespace Assembler

/-- The assembler for a target. -/
def ofTarget (t : Target) : Except AssemblyFault Assembler :=
  (t.hyper.mapM hostModifier).map fun ms => ⟨t.translation, ms⟩

/-- The event that sets a variable. -/
def assign (name : String) (value : Scalar) : Except AssemblyFault Event := do
  let assignment ← make Assignment.schema [("name", .text name), ("value", value.toValue)]
  make Event.schema [("set_variable", assignment.toValue .full)]

/-- The condition that a variable has an integer value. -/
def variableIs (name : String) (value : Int) : Except AssemblyFault Condition :=
  make Condition.schema
    [("type", ConditionKind.variableIf.toValue), ("name", .text name), ("value", .int value)]

/-- What a manipulator waits for, with modifiers that must be held. -/
def trigger (keyCode : String) (mandatory : List Host.Modifier) :
    Except AssemblyFault Trigger := do
  let modifiers ← make TriggerModifiers.schema [("mandatory", modifiersValue mandatory)]
  make Trigger.schema [("key_code", .text keyCode), ("modifiers", modifiers.toValue .full)]

variable (x : Assembler)

/-- The event of what is handed over for an action. -/
def event : Operand → Except AssemblyFault Event
  | .action (.keyPress p) => do
    let modifiers ← p.modifiers.mapM hostModifier
    make Event.schema
      [("key_code", .text (if p.translate then x.translation.apply p.keyCode else p.keyCode)),
       ("modifiers", if modifiers.isEmpty then .null else modifiersValue modifiers)]
  | .action (.consumerKey code) => make Event.schema [("consumer_key_code", .text code)]
  | .action (.vendorKey code) =>
    make Event.schema [("apple_vendor_keyboard_key_code", .text code)]
  | .action (.shell command) => make Event.schema [("shell_command", .text command)]
  | .action (.setVariable name value) => assign name value
  | .other v => .error (.unsupported (.ofValue v))

/-- The events of a command. -/
def events (command : Command) : Except AssemblyFault (List Event) :=
  command.actions.mapM fun a => x.event (.action a)

/-- A root key under the hyper chord. -/
def hyperTrigger (key : KeyCode) : Except AssemblyFault Trigger :=
  trigger (x.translation.apply key) x.hyper

/-- The manipulator that opens the sublayer of `key` while no other one is open. -/
def toggle (registry : Registry) (key : KeyCode) : Except AssemblyFault Manipulator := do
  let trigger ← x.hyperTrigger key
  let conditions ← (registry.others key).mapM fun name => variableIs name 0
  let opens ← assign (sublayerVariable key) (.int 1)
  let closes ← assign (sublayerVariable key) (.int 0)
  make Manipulator.schema
    [("description", .text ("Toggle Hyper sublayer " ++ key)),
     ("from_", trigger.toValue .full),
     ("conditions", .list (conditions.map (Condition.toValue .full))),
     ("to", eventsValue .full [opens]),
     ("to_after_key_up", eventsValue .full [closes])]

/-- The manipulator of a command in the sublayer of `key`. -/
def dispatch (key : KeyCode) (commandKey : KeyCode) (command : Command) :
    Except AssemblyFault Manipulator := do
  let trigger ← trigger (x.translation.apply commandKey) [.any]
  let condition ← variableIs (sublayerVariable key) 1
  let events ← x.events command
  make Manipulator.schema
    [("description", .ofOption .text command.description),
     ("from_", trigger.toValue .full),
     ("conditions", .list [condition.toValue .full]),
     ("to", eventsValue .full events)]

/-- The manipulator of a root key that fires a command. -/
def leaf (key : KeyCode) (command : Command) : Except AssemblyFault Manipulator := do
  let trigger ← x.hyperTrigger key
  let events ← x.events command
  make Manipulator.schema
    [("description", .ofOption .text command.description),
     ("from_", trigger.toValue .full),
     ("to", eventsValue .full events)]

/-- The manipulators of the sublayer of `key`: its toggle, then one dispatch for each command. -/
def sublayerManipulators (key : KeyCode) (commands : OrderedMap Command) (registry : Registry) :
    Except AssemblyFault (List Manipulator) := do
  let toggle ← x.toggle registry key
  let dispatches ← commands.entries.mapM fun e => x.dispatch key e.1 e.2
  pure (toggle :: dispatches)

/-- The rule of a root key. -/
def rule (registry : Registry) (key : KeyCode) : Entry → Except AssemblyFault Rule
  | .leaf command => do
    let manipulator ← x.leaf key command
    make Rule.schema
      [("description", .text ("Hyper Key + " ++ x.translation.apply key)),
       ("manipulators", .list [manipulator.toValue .full])]
  | .sublayer commands => do
    let manipulators ← x.sublayerManipulators key commands registry
    make Rule.schema
      [("description", .text ("Hyper Key sublayer \"" ++ key ++ "\"")),
       ("manipulators", .list (manipulators.map (Manipulator.toValue .full)))]

/-- The rules of layers, one for each root key, in order. -/
def rules (l : Layers) : Except AssemblyFault (List Rule) :=
  l.entries.entries.mapM fun e => x.rule (.ofLayers l) e.1 e.2

/-- The event of a function key with an action. -/
def keyEvent (keyCode : String) : Action → Except AssemblyFault Event
  | .consumerKey code => make Event.schema [("consumer_key_code", .text code)]
  | .vendorKey code => make Event.schema [("apple_vendor_keyboard_key_code", .text code)]
  | .keyPress p => make Event.schema [("key_code", .text p.keyCode)]
  | action => .error (.noKeyAction ⟨keyCode, action⟩)

/-- The replacement of a function key by an action. -/
def replacement (keyCode : String) (action : Action) : Except AssemblyFault Replacement := do
  let event ← keyEvent keyCode action
  let trigger ← make Trigger.schema [("key_code", .text keyCode)]
  make Replacement.schema
    [("from_", trigger.toValue .full), ("to", eventsValue .full [event])]

/-- The replacements for a table of actions, in order. -/
def replacements (table : OrderedMap Action) : Except AssemblyFault (List Replacement) :=
  table.entries.mapM fun e => replacement e.1 e.2

/-- A file of rules. -/
def ruleFile (title : String) (rules : List Rule) : Except AssemblyFault RuleFile :=
  make RuleFile.schema [("title", .text title), ("rules", rulesValue .full rules)]

/-- A fragment of a profile. -/
def profile (rules : List Rule) (functionKeys : List Replacement) :
    Except AssemblyFault Profile := do
  let block ← make RuleBlock.schema [("rules", rulesValue .full rules)]
  make Profile.schema
    [("complex_modifications", block.toValue .full),
     ("fn_function_keys", .list (functionKeys.map (Replacement.toValue .full)))]

end Assembler

/-- The rules of layers, with an assembler that is made for them. -/
def Target.assemble (t : Target) (l : Layers) : Except AssemblyFault (List Rule) := do
  let x ← Assembler.ofTarget t
  x.rules l

/-- Why nothing could be assembled. -/
inductive AssemblyError
  /-- There is no output to be assembled. -/
  | build (e : BuildError)
  /-- A record of the output could not be made. -/
  | fault (e : AssemblyFault)
  deriving DecidableEq, Repr

namespace Config

/-- The function keys that belong to the output. -/
def assembleFunctionKeys (c : Config) : Except AssemblyFault (List Replacement) :=
  if c.functionKeys then Assembler.replacements mediaRow else .ok []

/-- The output of a configuration with the given rules. -/
def assembleOutput (c : Config) (title : Option String) (rules : List Rule) :
    Format → Except AssemblyFault Output
  | .rules => (Assembler.ruleFile (c.outputTitle title) rules).map .rules
  | .profile => do
    let functionKeys ← c.assembleFunctionKeys
    (Assembler.profile rules functionKeys).map .profile

/-- The output of a configuration for the given layers and target. -/
def assembleFor (c : Config) (title : Option String) (l : Layers) (t : Target) (format : Format) :
    Except AssemblyFault Output := do
  let rules ← t.assemble l
  c.assembleOutput title rules format

/-- The output of a configuration in the format with the given name. -/
def assemble (c : Config) (format : String) (title : Option String) :
    Except AssemblyError Output :=
  match Format.ofName? format with
  | none => .error (.build (.unknownFormat (some format)))
  | some format =>
    match c.toLayers with
    | .error e => .error (.build (.config e))
    | .ok layers =>
      match c.target with
      | .error e => .error (.build (.layout e))
      | .ok target => (c.assembleFor title layers target format).mapError .fault

end Config

end KeyLayers
