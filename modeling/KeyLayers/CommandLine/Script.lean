import KeyLayers.CommandLine.FileSystem
import KeyLayers.CommandLine.Report

/-!
# Runs as scripts

What a run does to files, and in which order, is written down as a script: each step says what is
done and how to go on with what comes of it.  A script does not know where it is carried out.  Here
it is carried out on the files of a `FileSystem`; the program carries out the same script on the
files of the machine.  Nothing is undone: a run that fails leaves the files as its steps have left
them, so a file that has been opened for writing stays empty if a later step fails.  A path that
cannot be opened leads to no change of the files, and there is always room for what is added to one.

## Main definitions

* `Script` — the steps of a run.
* `Script.check`, `Script.log` — what may fail without a file, and what is said on request.
* `Script.aftermath` — what a script leaves behind when it is carried out.
-/

namespace KeyLayers.CommandLine

/-- What is done, step by step.  A file that has been opened for writing is known by a handle. -/
inductive Script (Handle : Type)
  /-- There is nothing left to do. -/
  | done
  /-- It cannot go on. -/
  | fail (e : Failure)
  /-- A file is read; if this is not possible, the script fails. -/
  | read (p : FilePath) (next : List UInt8 → Script Handle)
  /-- A file is opened for writing, which makes it or empties it; if this is not possible, the
  script fails. -/
  | create (p : FilePath) (next : Handle → Script Handle)
  /-- Bytes are added to a file that has been opened. -/
  | append (file : Handle) (bytes : List UInt8) (next : Script Handle)
  /-- Something is said. -/
  | say (entries : List LogEntry) (next : Script Handle)

/-- What a run leaves behind. -/
structure Aftermath where
  /-- Why the run failed, if it did. -/
  failure : Option Failure
  /-- The system afterwards. -/
  system : FileSystem
  /-- What the run has said. -/
  log : List LogEntry

namespace Script

variable {Handle α : Type}

/-- Goes on with a result, or fails if there is none. -/
def check (r : Except Failure α) (next : α → Script Handle) : Script Handle :=
  match r with
  | .ok a => next a
  | .error e => .fail e

/-- Says something, if it is asked to. -/
def log (verbose : Bool) (entries : List LogEntry) (next : Script Handle) : Script Handle :=
  if verbose then .say entries next else next

/-- Carries out a script on the files of a system, where a file that has been opened is known by its
name. -/
def aftermath : Script String → FileSystem → Aftermath
  | .done, fs => ⟨none, fs, []⟩
  | .fail e, fs => ⟨some e, fs, []⟩
  | .read p next, fs =>
    match fs.read p with
    | .error e => ⟨some (.file e), fs, []⟩
    | .ok bytes => (next bytes).aftermath fs
  | .create p next, fs =>
    match fs.create p with
    | .error e => ⟨some (.file e), fs, []⟩
    | .ok (file, fs') => (next file).aftermath fs'
  | .append file bytes next, fs => next.aftermath (fs.append file bytes)
  | .say entries next, fs =>
    let rest := next.aftermath fs
    ⟨rest.failure, rest.system, entries ++ rest.log⟩

@[simp] theorem check_ok (a : α) (next : α → Script Handle) : check (.ok a) next = next a := rfl

@[simp] theorem check_error (e : Failure) (next : α → Script Handle) :
    check (.error e) next = .fail e := rfl

@[simp] theorem aftermath_done (fs : FileSystem) : done.aftermath fs = ⟨none, fs, []⟩ := rfl

@[simp] theorem aftermath_fail (e : Failure) (fs : FileSystem) :
    (fail e).aftermath fs = ⟨some e, fs, []⟩ := rfl

@[simp] theorem aftermath_append (file : String) (bytes : List UInt8) (next : Script String)
    (fs : FileSystem) :
    (append file bytes next).aftermath fs = next.aftermath (fs.append file bytes) := rfl

theorem aftermath_read {fs : FileSystem} {p : FilePath} {bytes : List UInt8}
    (h : fs.read p = .ok bytes) (next : List UInt8 → Script String) :
    (read p next).aftermath fs = (next bytes).aftermath fs := by
  simp only [aftermath, h]

theorem aftermath_read_error {fs : FileSystem} {p : FilePath} {e : FileError}
    (h : fs.read p = .error e) (next : List UInt8 → Script String) :
    (read p next).aftermath fs = ⟨some (.file e), fs, []⟩ := by
  simp only [aftermath, h]

theorem aftermath_create {fs fs' : FileSystem} {p : FilePath} {file : String}
    (h : fs.create p = .ok (file, fs')) (next : String → Script String) :
    (create p next).aftermath fs = (next file).aftermath fs' := by
  simp only [aftermath, h]

theorem aftermath_create_error {fs : FileSystem} {p : FilePath} {e : FileError}
    (h : fs.create p = .error e) (next : String → Script String) :
    (create p next).aftermath fs = ⟨some (.file e), fs, []⟩ := by
  simp only [aftermath, h]

/-- What is said has no part in how a run ends. -/
@[simp] theorem failure_log (verbose : Bool) (entries : List LogEntry) (next : Script String)
    (fs : FileSystem) :
    ((log verbose entries next).aftermath fs).failure = (next.aftermath fs).failure := by
  cases verbose <;> rfl

/-- What is said does nothing to the files. -/
@[simp] theorem system_log (verbose : Bool) (entries : List LogEntry) (next : Script String)
    (fs : FileSystem) :
    ((log verbose entries next).aftermath fs).system = (next.aftermath fs).system := by
  cases verbose <;> rfl

end Script

end KeyLayers.CommandLine
