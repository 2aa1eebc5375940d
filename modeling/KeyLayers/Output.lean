import KeyLayers.Target
import KeyLayers.MediaRow
import KeyLayers.Host.Written
import KeyLayers.Layers.OfConfig

/-!
# The compiled output

A configuration is compiled into a file of rules or into a fragment of a profile, which holds the
function keys beside the rules.

## Main definitions

* `Output` — what a configuration is compiled into.
* `BuildError` — why there is no output.
* `Config.target` — the layout and the hyper chord of a configuration.
* `Config.build` — the output of a configuration.
-/

namespace KeyLayers

open Host

/-- What a configuration is compiled into. -/
inductive Format
  /-- A file of rules. -/
  | rules
  /-- A fragment of a profile. -/
  | profile
  deriving DecidableEq, Repr

/-- The formats, in order. -/
def Format.all : List Format := [.rules, .profile]

/-- The name of a format. -/
def Format.name : Format → String
  | .rules => "rules"
  | .profile => "profile"

/-- The format with a name. -/
def Format.ofName? (s : String) : Option Format := all.find? fun f => f.name = s

/-- A compiled configuration. -/
inductive Output
  /-- A file of rules. -/
  | rules (s : RuleFile)
  /-- A fragment of a profile. -/
  | profile (p : Profile)
  deriving DecidableEq, Repr

/-- The value tree of the output. -/
def Output.toValue (f : Form) : Output → Value
  | .rules s => s.toValue f
  | .profile p => p.toValue f

/-- Why a configuration has no output. -/
inductive BuildError
  /-- No format has this name, or no name is given. -/
  | unknownFormat (name : Option String)
  /-- The configuration describes no layers. -/
  | config (e : ConfigError)
  /-- No layout has the configured name. -/
  | layout (e : UnknownLayout)
  deriving DecidableEq, Repr

/-- The wording of an error. -/
def BuildError.message : BuildError → String
  | .unknownFormat name =>
    let known := ", ".intercalate (Format.all.map Format.name)
    let shown := (name.map Text.quoted).getD "[]"
    s!"unknown output format: {shown} (expected one of: {known})"
  | .config e => e.message
  | .layout e => e.message

/-- The first text that is given and not empty. -/
def firstNonempty (texts : List (Option String)) (otherwise : String) : String :=
  ((texts.filterMap id).find? (· ≠ "")).getD otherwise

namespace Config

/-- The title of a file that nobody gave one. -/
def defaultTitle : String := "Hyper key sublayers"

/-- The title of the file of rules: the one asked for, the configuration's, or its description. -/
def outputTitle (c : Config) (title : Option String) : String :=
  firstNonempty [title, c.title, c.description] defaultTitle

/-- The layout with the remapped keys, and the hyper chord. -/
def target (c : Config) : Except UnknownLayout Target :=
  (Translation.ofLayout c.layout (Aliases.canonical c.remap)).map fun t => ⟨t, c.hyper⟩

/-- The function keys that belong to the output. -/
def outputFunctionKeys (c : Config) : List Replacement :=
  if c.functionKeys then
    match replacements mediaRow with
    | .ok keys => keys
    | .error _ => []
  else []

/-- The output of a configuration with the given rules. -/
def output (c : Config) (title : Option String) (rules : List Rule) : Format → Output
  | .rules => .rules ⟨c.outputTitle title, rules⟩
  | .profile => .profile ⟨⟨rules⟩, c.outputFunctionKeys⟩

/-- The output of a configuration in the format with the given name. -/
def build (c : Config) (format title : Option String) : Except BuildError Output :=
  match format.bind Format.ofName? with
  | none => .error (.unknownFormat format)
  | some format =>
    match c.toLayers with
    | .error e => .error (.config e)
    | .ok layers =>
      match c.target with
      | .error e => .error (.layout e)
      | .ok target => .ok (c.output title (target.rules layers) format)

end Config

end KeyLayers
