import KeyLayers.CommandLine.Directory
import KeyLayers.CommandLine.Options
import KeyLayers.Json.Printer
import KeyLayers.Text.Lines
import KeyLayers.Text.Utf8
import KeyLayers.Toml.Fault

/-!
# What a run reports

A run that cannot go on says why.  On request it also tells what it has done so far, an entry at a
time.

## Main definitions

* `Failure` — why a run fails.
* `LogEntry` — something that a run says.
* `shownLines` — the lines in which log entries are shown.
-/

namespace KeyLayers.CommandLine

/-- Why a run fails. -/
inductive Failure
  /-- The arguments ask for something else. -/
  | exit (e : Exit)
  /-- A path cannot be opened. -/
  | file (e : FileError)
  /-- A file is no text. -/
  | encoding (e : Text.Utf8.Fault)
  /-- A text is no TOML. -/
  | toml (e : Toml.Fault)
  /-- A value tree is no configuration. -/
  | refusal (r : Refusal)
  /-- A configuration has no output. -/
  | build (e : BuildError)
  /-- There is no layout with the width. -/
  | width (e : Json.WidthError)
  deriving DecidableEq, Repr

/-- The wording of a failure.  What is wrong with a value tree takes a line for each issue. -/
def Failure.message : Failure → String
  | .exit .help => "usage: CONFIG OUT [--indent N] [--format rules|profile] [--title T] [-v]"
  | .exit .usage => "the arguments are not understood"
  | .exit .noOutput => "there is no path for the output"
  | .file e => e.message
  | .encoding e => e.message
  | .toml e => e.message
  | .refusal r => "\n".intercalate (r.message :: r.issues.map Issue.line)
  | .build e => e.message
  | .width e => e.message

/-- Something that a run says. -/
inductive LogEntry
  /-- A configuration has been read as so many layers. -/
  | parsed (layers : Nat)
  /-- The variables of the sublayers are known. -/
  | sublayers (names : List String)
  /-- A root key has been compiled into a rule with so many manipulators. -/
  | compiled (description : String) (manipulators : Nat)
  /-- A file has been written. -/
  | wrote (path : String)
  deriving DecidableEq, Repr

/-- The line of a log entry. -/
def LogEntry.line : LogEntry → String
  | .parsed n => s!"DEBUG:hyper_keys.layer.frontend:parsed {Numeral.natText n} layers"
  | .sublayers names =>
    s!"DEBUG:hyper_keys.karabiner.backend:sublayer variables: {Text.quotedList names}"
  | .compiled description n =>
    let what := s!"{Text.quoted description} with {Numeral.natText n} manipulators"
    s!"DEBUG:hyper_keys.karabiner.backend:compiled {what}"
  | .wrote path => s!"INFO:hyper_keys.karabiner.compiler:wrote {path}"

/-- The lines in which log entries are shown: each entry ends its line, and a path may hold further
line ends. -/
def shownLines (entries : List LogEntry) : List String :=
  (Text.lines (entries.flatMap fun e => e.line.toList ++ ['\n'])).map String.ofList

end KeyLayers.CommandLine
