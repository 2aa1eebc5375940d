import KeyLayers.CommandLine.Script
import KeyLayers.Config.Schema
import KeyLayers.Toml.Document

/-!
# Runs of the program

A run reads a configuration, compiles it, and writes the output as JSON text with a line end.  The
output is opened only after everything else has succeeded, since opening it empties it, and it may
be the file that the configuration is in.

## Main definitions

* `Job` — what to compile and where to write it.
* `valueOfBytes`, `configOfBytes` — the value tree and the configuration in a file's bytes.
* `Job.text` — the text that is written.
* `Job.script`, `script` — the steps of a job, and those of a run with the arguments of the command
  line.
* `Job.run` — the directory after a job.
* `run`, `runOn` — what a run leaves behind, in a directory and on the files of a system.
-/

namespace KeyLayers.CommandLine

/-- What to compile and where to write it. -/
structure Job where
  /-- The path of the configuration. -/
  input : FilePath
  /-- The path of the output. -/
  output : FilePath
  /-- The width of a level of the output. -/
  indent : Json.Width := .spaces 2
  /-- The name of the format, if one is given. -/
  format : Option String := some Format.rules.name
  /-- The title. -/
  title : Option String := none
  deriving DecidableEq, Repr

/-- The value tree of a file's bytes. -/
def valueOfBytes (bytes : List UInt8) : Except Failure Value :=
  match Text.Utf8.decode bytes with
  | .error e => .error (.encoding e)
  | .ok s =>
    match Toml.parse (Text.unifyLines s) with
    | .error e => .error (.toml e)
    | .ok v => .ok v

/-- The configuration in a file's bytes. -/
def configOfBytes (bytes : List UInt8) : Except Failure Config :=
  match valueOfBytes bytes with
  | .error e => .error e
  | .ok v =>
    match Config.schema.validate v with
    | .error r => .error (.refusal r)
    | .ok c => .ok c

/-- The value tree of the file behind a path. -/
def Directory.loadValue (d : Directory) (p : FilePath) : Except Failure Value :=
  match d.read p with
  | .error e => .error (.file e)
  | .ok bytes => valueOfBytes bytes

/-- What is said when layers are compiled. -/
def compilationLog (t : Target) (l : Layers) : List LogEntry :=
  .sublayers (Registry.ofLayers l).names
    :: (t.rules l).map fun r => .compiled r.description r.manipulators.length

/-- What is said when a configuration is compiled. -/
def buildLog (c : Config) : List LogEntry :=
  match c.toLayers with
  | .error _ => []
  | .ok layers =>
    .parsed layers.entries.entries.length ::
      match c.target with
      | .error _ => []
      | .ok target => compilationLog target layers

namespace Job

/-- What is said when a configuration is compiled into a format; nothing if there is none of this
name. -/
def log (j : Job) (c : Config) : List LogEntry :=
  match j.format.bind Format.ofName? with
  | some _ => buildLog c
  | none => []

/-- The text that a configuration is compiled into. -/
def text (j : Job) (c : Config) : Except Failure String :=
  match c.build j.format j.title with
  | .error e => .error (.build e)
  | .ok output =>
    match Json.Indent.ofWidth j.indent with
    | .error e => .error (.width e)
    | .ok indent => .ok (Json.render indent (output.toValue .wire) ++ "\n")

/-- The steps of a job. -/
def script {Handle : Type} (j : Job) (verbose : Bool) : Script Handle :=
  .read j.input fun bytes =>
  .check (configOfBytes bytes) fun c =>
  .log verbose (j.log c) <|
  .check (j.text c) fun text =>
  .create j.output fun file =>
  .append file text.toUTF8.toList <|
  .log verbose [.wrote j.output.text] .done

/-- The directory after a job, if it does not fail. -/
def run (j : Job) (d : Directory) : Except Failure Directory :=
  let a := (j.script false).aftermath d.fileSystem
  match a.failure with
  | some e => .error e
  | none => .ok ⟨a.system.files⟩

end Job

/-- The job that options describe. -/
def Options.job (o : Options) : Job where
  input := .ofString o.input
  output := .ofString o.output
  indent := (o.indent.map .spaces).getD .missing
  format := o.format
  title := o.title

/-- The steps of a run with the arguments of the command line. -/
def script {Handle : Type} (arguments : List String) : Script Handle :=
  .check ((Options.parse arguments).mapError .exit) fun o => o.job.script o.verbose

/-- What a run leaves of the files of a system. -/
def runOn (arguments : List String) (fs : FileSystem) : Aftermath :=
  (script arguments).aftermath fs

/-- What a run in a directory leaves behind. -/
structure Outcome where
  /-- Why the run failed, if it did. -/
  failure : Option Failure
  /-- The directory afterwards. -/
  directory : Directory
  /-- What the run has said, if it was asked to. -/
  log : List LogEntry
  deriving DecidableEq, Repr

/-- A run in a directory with the arguments of the command line. -/
def run (arguments : List String) (d : Directory) : Outcome :=
  let a := runOn arguments d.fileSystem
  ⟨a.failure, ⟨a.system.files⟩, a.log⟩

end KeyLayers.CommandLine
