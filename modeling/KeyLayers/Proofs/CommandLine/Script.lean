import KeyLayers.CommandLine.Run
import KeyLayers.Proofs.CommandLine.Directory

/-!
# Scripts that write last

A script that fails does not leave the files alone by itself.  One that opens the
output first has emptied it when the configuration turns out to be wrong, and what
has been emptied stays so.  It is the order of the steps that makes the difference:
once a file has been opened, nothing may follow that can fail.  This is a property
of the script, and so it does not matter what the files are or where the script is
carried out.

## Main definitions

* `Script.Sure` — no step can fail.
* `Script.WritesLast` — no step can fail once a file has been opened.

## Main results

* `Script.WritesLast.unchanged` — **a script that writes last changes nothing if it fails.**
* `script_writesLast` — the script of every run writes last.
* `Job.aftermath_script` — what a job leaves of the files if all its stages succeed.
-/

namespace KeyLayers.CommandLine

namespace Script

variable {Handle : Type}

/-- No step can fail. -/
inductive Sure : Script Handle → Prop
  | done : Sure .done
  | append {file : Handle} {bytes : List UInt8} {next : Script Handle} (rest : Sure next) :
    Sure (.append file bytes next)
  | say {entries : List LogEntry} {next : Script Handle} (rest : Sure next) :
    Sure (.say entries next)

/-- No step can fail once a file has been opened for writing, and no file is added to before. -/
inductive WritesLast : Script Handle → Prop
  | done : WritesLast .done
  | fail {e : Failure} : WritesLast (.fail e)
  | read {p : FilePath} {next : List UInt8 → Script Handle}
    (rest : ∀ bytes, WritesLast (next bytes)) : WritesLast (.read p next)
  | create {p : FilePath} {next : Handle → Script Handle} (rest : ∀ file, Sure (next file)) :
    WritesLast (.create p next)
  | say {entries : List LogEntry} {next : Script Handle} (rest : WritesLast next) :
    WritesLast (.say entries next)

theorem Sure.log {verbose : Bool} {entries : List LogEntry} {next : Script Handle} (h : next.Sure) :
    (log verbose entries next).Sure := by
  cases verbose with
  | false => exact h
  | true => exact .say h

theorem WritesLast.log {verbose : Bool} {entries : List LogEntry} {next : Script Handle}
    (h : next.WritesLast) : (log verbose entries next).WritesLast := by
  cases verbose with
  | false => exact h
  | true => exact .say h

theorem WritesLast.check {α : Type} {r : Except Failure α} {next : α → Script Handle}
    (h : ∀ a, (next a).WritesLast) : (check r next).WritesLast := by
  cases r with
  | error e => exact .fail
  | ok a => exact h a

/-! ### Carrying them out -/

theorem Sure.failure_aftermath {s : Script String} (h : s.Sure) (fs : FileSystem) :
    (s.aftermath fs).failure = none := by
  induction h generalizing fs with
  | done => rfl
  | append _ ih => exact ih _
  | say _ ih => exact ih fs

/-- **A script that writes last changes nothing if it fails.** -/
theorem WritesLast.unchanged {s : Script String} (h : s.WritesLast) (fs : FileSystem)
    (hfailure : (s.aftermath fs).failure ≠ none) : (s.aftermath fs).system = fs := by
  induction h with
  | done => rfl
  | fail => rfl
  | @read p next _ ih =>
    cases hread : fs.read p with
    | error e => rw [aftermath_read_error hread]
    | ok bytes =>
      rw [aftermath_read hread] at hfailure ⊢
      exact ih bytes hfailure
  | @create p next hnext =>
    cases hcreate : fs.create p with
    | error e => rw [aftermath_create_error hcreate]
    | ok opened =>
      -- the files have changed, but nothing is left that can fail
      rw [aftermath_create hcreate] at hfailure
      exact absurd ((hnext opened.1).failure_aftermath opened.2) hfailure
  | say _ ih => exact ih hfailure

/-- In the other order a file is emptied by a script that fails. -/
example : (aftermath (.create ⟨"", ["out"]⟩ fun _ => .fail (.exit .usage))
    ⟨[("out", [0x68, 0x69])], fun _ _ => .ok "out", fun _ _ => .ok "out"⟩).system.files =
      [("out", [])] := rfl

end Script

/-! ### The script of a run -/

theorem Job.script_writesLast {Handle : Type} (j : Job) (verbose : Bool) :
    (j.script verbose : Script Handle).WritesLast :=
  .read fun _ => .check fun _ => .log (.check fun _ => .create fun _ => .append (.log .done))

/-- The script of every run writes last, also where it is carried out on other files. -/
theorem script_writesLast {Handle : Type} (arguments : List String) :
    (script arguments : Script Handle).WritesLast :=
  .check fun o => o.job.script_writesLast o.verbose

namespace Job

variable {j : Job} {fs : FileSystem} {bytes : List UInt8} {c : Config} {text : String}
  (verbose : Bool)

theorem failure_script_config {e : Failure} (hread : fs.read j.input = .ok bytes)
    (hconfig : configOfBytes bytes = .error e) :
    ((j.script verbose).aftermath fs).failure = some e := by
  rw [script, Script.aftermath_read hread, hconfig, Script.check_error, Script.aftermath_fail]

theorem failure_script_text {e : Failure} (hread : fs.read j.input = .ok bytes)
    (hconfig : configOfBytes bytes = .ok c) (htext : j.text c = .error e) :
    ((j.script verbose).aftermath fs).failure = some e := by
  rw [script, Script.aftermath_read hread, hconfig, Script.check_ok, Script.failure_log, htext,
    Script.check_error, Script.aftermath_fail]

theorem failure_script_output {e : FileError} (hread : fs.read j.input = .ok bytes)
    (hconfig : configOfBytes bytes = .ok c) (htext : j.text c = .ok text)
    (hopened : fs.writes fs.files j.output = .error e) :
    ((j.script verbose).aftermath fs).failure = some (.file e) := by
  rw [script, Script.aftermath_read hread, hconfig, Script.check_ok, Script.failure_log, htext,
    Script.check_ok, Script.aftermath_create_error (FileSystem.create_eq_error hopened)]

/-- A job whose stages all succeed writes the text of its output. -/
theorem aftermath_script {place : String} (hread : fs.read j.input = .ok bytes)
    (hconfig : configOfBytes bytes = .ok c) (htext : j.text c = .ok text)
    (hopened : fs.writes fs.files j.output = .ok place) :
    ((j.script verbose).aftermath fs).failure = none ∧
      ((j.script verbose).aftermath fs).system = fs.put place text.toUTF8.toList := by
  have hcreate := FileSystem.create_eq_ok hopened
  constructor
  · rw [script, Script.aftermath_read hread, hconfig, Script.check_ok, Script.failure_log, htext,
      Script.check_ok, Script.aftermath_create hcreate, Script.aftermath_append, Script.failure_log,
      Script.aftermath_done]
  · rw [script, Script.aftermath_read hread, hconfig, Script.check_ok, Script.system_log, htext,
      Script.check_ok, Script.aftermath_create hcreate, Script.aftermath_append, Script.system_log,
      Script.aftermath_done, FileSystem.append_put, List.nil_append]

end Job

end KeyLayers.CommandLine
