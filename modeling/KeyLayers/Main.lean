import KeyLayers.CommandLine.Run

/-!
# The program

Compiles the configuration in a file into rules for the host.  Files are opened here and nowhere
else.  What is done to them, and in which order, is the script of a run.

## Main definitions

* `Trouble` — why a run on the files of the machine stops.
* `attempt` — an action on a file, or why it was not possible.
* `Script.perform` — carries out a script on the files of the machine.
* `main` — a run with the arguments of the command line.
-/

namespace KeyLayers.CommandLine

/-- Why a run on the files of the machine stops. -/
inductive Trouble
  /-- The run has failed by itself. -/
  | failure (e : Failure)
  /-- The machine has refused an action on a file, in these words. -/
  | refused (message : String)

/-- Why a path could not be opened, in the words of the library where it has some. -/
def describe (p : FilePath) : IO.Error → String
  | .noFileOrDirectory .. => (FileError.notFound p.text).message
  | .inappropriateType _ 20 _ => (FileError.notDirectory p.text).message
  | .inappropriateType _ 21 _ => (FileError.isDirectory p.text).message
  | e => toString e

/-- What an action on a file gives, or why it was not possible. -/
def attempt {α : Type} (words : IO.Error → String) (action : IO α) : IO (Except String α) := do
  try return .ok (← action)
  catch e => return .error (words e)

/-- Carries out a script on the files of the machine. -/
def Script.perform : Script IO.FS.Handle → IO (Option Trouble)
  | .done => return none
  | .fail e => return some (.failure e)
  | .read p next => do
    match ← attempt (describe p) (IO.FS.readBinFile p.text) with
    | .error message => return some (.refused message)
    | .ok content => (next content.toList).perform
  | .create p next => do
    match ← attempt (describe p) (IO.FS.Handle.mk p.text .write) with
    | .error message => return some (.refused message)
    | .ok file => (next file).perform
  | .append file bytes next => do
    match ← attempt toString (file.write ⟨bytes.toArray⟩) with
    | .error message => return some (.refused message)
    | .ok () => next.perform
  | .say entries next => do
    entries.forM fun e => IO.eprintln e.line
    next.perform

end KeyLayers.CommandLine

open KeyLayers.CommandLine in
/-- A run with the arguments of the command line. -/
def main (arguments : List String) : IO UInt32 := do
  match ← (script arguments).perform with
  | none => return 0
  | some (.failure (.exit .help)) =>
    IO.println (Failure.exit .help).message
    return 0
  | some (.failure e) =>
    IO.eprintln e.message
    return if e = .exit .usage then 2 else 1
  | some (.refused message) =>
    IO.eprintln message
    return 1
