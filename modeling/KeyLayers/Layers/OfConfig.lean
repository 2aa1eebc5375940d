import KeyLayers.Chord
import KeyLayers.Config.Schema
import KeyLayers.Layers.Basic

/-!
# From configurations to layers

The keys of a configuration are brought to canonical spelling and their aliases resolved, its chords
are read, and its bindings become commands.  Two root keys, or two keys of one sublayer, that turn
out to be the same are refused.

## Main definitions

* `ConfigError` — why a configuration describes no layers.
* `Vocabulary` — the aliases under which a configuration is read.
* `Vocabulary.command`, `Vocabulary.entry` — the command of a binding, the entry of a layer.
* `Config.toLayers` — the layers that a configuration describes.
-/

namespace KeyLayers

/-- Why a configuration describes no layers. -/
inductive ConfigError
  /-- A key, a modifier or a chord is not understood. -/
  | spelling (e : SpellingError)
  /-- Two layers have the same root key. -/
  | duplicateLayer (key : KeyCode)
  /-- Two bindings of a sublayer have the same key. -/
  | duplicateCommand (key layer : KeyCode)
  deriving DecidableEq, Repr

/-- The wording of an error. -/
def ConfigError.message : ConfigError → String
  | .spelling e => e.message
  | .duplicateLayer key => "duplicate layer key: " ++ Text.quoted key
  | .duplicateCommand key layer =>
    s!"duplicate command key {Text.quoted key} in layer {Text.quoted layer}"

/-- The aliases under which a configuration is read. -/
structure Vocabulary where
  /-- Other names for keys. -/
  keys : Aliases
  /-- Other names for modifiers. -/
  modifiers : Aliases

namespace Vocabulary

/-- The aliases of a configuration, in canonical spelling. -/
def ofConfig (c : Config) : Vocabulary := ⟨c.aliases.key.canonical, c.aliases.mod.canonical⟩

/-- The key that a text names. -/
def key (w : Vocabulary) (text : String) : Except SpellingError KeyCode :=
  KeyCode.resolve w.keys text

/-- The modifier that a text names. -/
def modifier (w : Vocabulary) (text : String) : Except SpellingError Modifier :=
  (KeyCode.resolve w.modifiers text).bind Modifier.ofName

/-- The modifiers that texts name. -/
def modifierList (w : Vocabulary) : List String → Except SpellingError (List Modifier)
  | [] => .ok []
  | text :: texts =>
    (w.modifier text).bind fun m => (w.modifierList texts).map (m :: ·)

/-- The action of an event. -/
def action (w : Vocabulary) : Config.Event → Except SpellingError Action
  | .key code modifiers =>
    (w.key code).bind fun key =>
      (w.modifierList modifiers).map fun ms => .keyPress ⟨key, ms, false⟩
  | .consumerKey code => .ok (.consumerKey code)
  | .vendorKey code => .ok (.vendorKey code)
  | .shell command => .ok (.shell command)

/-- The actions of events. -/
def actions (w : Vocabulary) : List Config.Event → Except SpellingError (List Action)
  | [] => .ok []
  | event :: events => (w.action event).bind fun a => (w.actions events).map (a :: ·)

/-- The command of an effect. -/
def effect (w : Vocabulary) : Config.Effect → Except SpellingError Command
  | .app name => .ok (.openApp name)
  | .openTarget target => .ok (.openTarget target)
  | .shell command => .ok (.shell command)
  | .emit chord =>
    (KeyPress.ofChord w.keys w.modifiers Chord.plus false chord).map fun p => ⟨[.keyPress p], none⟩
  | .send events => (w.actions events).map fun as => ⟨as, none⟩

/-- The command of a binding; its description comes before that of the effect. -/
def command (w : Vocabulary) (b : Config.Binding) : Except SpellingError Command :=
  (w.effect b.effect).map fun c => { c with description := b.description.or c.description }

/-- The commands of a sublayer's bindings, after those of `commands`. -/
def commands (w : Vocabulary) (layer : KeyCode) (commands : OrderedMap Command) :
    Entries Config.Binding → Except ConfigError (OrderedMap Command)
  | [] => .ok commands
  | (text, binding) :: bindings =>
    match w.key text with
    | .error e => .error (.spelling e)
    | .ok key =>
      if commands.contains key then .error (.duplicateCommand key layer)
      else
        match w.command binding with
        | .error e => .error (.spelling e)
        | .ok c => w.commands layer (commands.insert key c) bindings

/-- The entry of a body under a root key. -/
def entry (w : Vocabulary) (key : KeyCode) : Config.Body → Except ConfigError Entry
  | .command binding => ((w.command binding).mapError .spelling).map .leaf
  | .commands bindings => (w.commands key .empty bindings.entries).map .sublayer

/-- The entries of layers, after those of `entries`. -/
def entries (w : Vocabulary) (entries : OrderedMap Entry) :
    List Config.Layer → Except ConfigError (OrderedMap Entry)
  | [] => .ok entries
  | layer :: layers =>
    match w.key layer.key with
    | .error e => .error (.spelling e)
    | .ok key =>
      if entries.contains key then .error (.duplicateLayer key)
      else (w.entry key layer.body).bind fun e => w.entries (entries.insert key e) layers

end Vocabulary

/-- The layers that a configuration describes. -/
def Config.toLayers (c : Config) : Except ConfigError Layers :=
  ((Vocabulary.ofConfig c).entries .empty c.layers).map Layers.mk

end KeyLayers
