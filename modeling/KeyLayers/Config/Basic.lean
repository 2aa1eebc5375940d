import KeyLayers.Action
import KeyLayers.Key
import KeyLayers.Schema.Form
import KeyLayers.Text.Quoted

/-!
# Configurations

What a person writes down: the layers with their bindings, and beside them the title, the layout,
the hyper chord and the aliases.  A binding says in one of five ways what a key does, a layer has
either one binding or a sublayer of them, and an event is of one of four kinds.  A value tree that
gives none or several of these breaks a rule.

## Main definitions

* `Config.Event`, `Config.Effect`, `Config.Binding`, `Config.Layer`, `Config` — the parts and the
  whole.
* `Config.Violation` — the rules that join several fields.
* `Config.Event.ofFields`, `Config.Binding.ofFields`, `Config.Layer.ofFields` — what the fields of
  an entry give, if they keep the rules.
-/

namespace KeyLayers

/-- An event that a binding sends. -/
inductive Config.Event
  /-- Presses a key with modifiers. -/
  | key (code : String) (modifiers : List String)
  /-- Presses a media key. -/
  | consumerKey (code : String)
  /-- Presses a key that only one vendor's keyboards have. -/
  | vendorKey (code : String)
  /-- Runs a shell command. -/
  | shell (command : String)
  deriving DecidableEq, Repr

/-- What a key does. -/
inductive Config.Effect
  /-- Opens an application. -/
  | app (name : String)
  /-- Opens a file or an address. -/
  | openTarget (target : String)
  /-- Runs a shell command. -/
  | shell (command : String)
  /-- Sends a chord. -/
  | emit (chord : String)
  /-- Sends events. -/
  | send (events : List Config.Event)
  deriving DecidableEq, Repr

/-- What a key does, with an optional description. -/
structure Config.Binding where
  /-- What the key does. -/
  effect : Config.Effect
  /-- The description. -/
  description : Option String := none
  deriving DecidableEq, Repr

/-- What a root key is bound to. -/
inductive Config.Body
  /-- A single binding. -/
  | command (binding : Config.Binding)
  /-- A sublayer: the bindings of its keys, in order. -/
  | commands (bindings : OrderedMap Config.Binding)
  deriving DecidableEq, Repr

/-- A root key and what it is bound to. -/
structure Config.Layer where
  /-- The root key, as it is written. -/
  key : String
  /-- What it is bound to. -/
  body : Config.Body
  deriving DecidableEq, Repr

/-- Other names for keys and for modifiers. -/
structure Config.AliasTables where
  /-- Other names for keys. -/
  key : Aliases := .empty
  /-- Other names for modifiers. -/
  mod : Aliases := .empty
  deriving DecidableEq, Repr

/-- A configuration. -/
structure Config where
  /-- The version. -/
  version : Option Int := none
  /-- The title. -/
  title : Option String := none
  /-- The description. -/
  description : Option String := none
  /-- The name of the layout. -/
  layout : String := "qwerty"
  /-- The hyper chord. -/
  hyper : List Modifier := hyperChord
  /-- Whether the function keys are part of a profile. -/
  functionKeys : Bool := false
  /-- Other names for keys and modifiers. -/
  aliases : Config.AliasTables := {}
  /-- Keys that the layout does not have in their places. -/
  remap : OrderedMap String := .empty
  /-- The root keys, in order. -/
  layers : List Config.Layer := []
  deriving DecidableEq, Repr

namespace Config

/-- A rule that joins several fields is broken. -/
inductive Violation
  /-- An event has none or several kinds. -/
  | notOneEvent (given : List String)
  /-- An event that presses no key has modifiers. -/
  | modifiersWithoutKey
  /-- A binding says nothing or several things. -/
  | notOneEffect (given : List String)
  /-- A layer has no body or two. -/
  | notOneBody (key : String)
  deriving DecidableEq, Repr

/-- The given fields in words. -/
def givenText (given : List String) : String :=
  if given.isEmpty then "none" else Text.quotedList given

/-- The wording of a broken rule. -/
def Violation.message : Violation → String
  | .notOneEvent given => "to entry must set exactly one event kind, got: " ++ givenText given
  | .modifiersWithoutKey => "modifiers are only allowed together with key_code"
  | .notOneEffect given =>
    "command must set exactly one of app/open/shell/emit/to, got: " ++ givenText given
  | .notOneBody key =>
    s!"layer {Text.quoted key} must set exactly one of command/commands"

/-- The names of the fields that hold something. -/
def given (fields : List (String × Bool)) : List String :=
  (fields.filter Prod.snd).map Prod.fst

/-- The event that the fields of an entry give. -/
def Event.ofFields (keyCode : Option String) (modifiers : List String)
    (consumer vendor shell : Option String) : Except Violation Event :=
  let event : Except Violation Event :=
    match keyCode, consumer, vendor, shell with
    | some code, none, none, none => .ok (.key code modifiers)
    | none, some code, none, none => .ok (.consumerKey code)
    | none, none, some code, none => .ok (.vendorKey code)
    | none, none, none, some command => .ok (.shell command)
    | _, _, _, _ => .error <| .notOneEvent <| given
        [("key_code", keyCode.isSome), ("consumer_key_code", consumer.isSome),
         ("apple_vendor_keyboard_key_code", vendor.isSome), ("shell_command", shell.isSome)]
  match event with
  | .ok (.key code ms) => .ok (.key code ms)
  | .ok e => if modifiers.isEmpty then .ok e else .error .modifiersWithoutKey
  | .error e => .error e

/-- The binding that the fields of an entry give. -/
def Binding.ofFields (app openTarget shell emit : Option String) (events : Option (List Event))
    (description : Option String) : Except Violation Binding :=
  match app, openTarget, shell, emit, events with
  | some name, none, none, none, none => .ok ⟨.app name, description⟩
  | none, some target, none, none, none => .ok ⟨.openTarget target, description⟩
  | none, none, some command, none, none => .ok ⟨.shell command, description⟩
  | none, none, none, some chord, none => .ok ⟨.emit chord, description⟩
  | none, none, none, none, some es => .ok ⟨.send es, description⟩
  | _, _, _, _, _ => .error <| .notOneEffect <| given
      [("app", app.isSome), ("open", openTarget.isSome), ("shell", shell.isSome),
       ("emit", emit.isSome), ("to", events.isSome)]

/-- The layer that the fields of an entry give. -/
def Layer.ofFields (key : String) (command : Option Binding)
    (commands : Option (OrderedMap Binding)) : Except Violation Layer :=
  match command, commands with
  | some binding, none => .ok ⟨key, .command binding⟩
  | none, some bindings => .ok ⟨key, .commands bindings⟩
  | _, _ => .error (.notOneBody key)

end Config

end KeyLayers
