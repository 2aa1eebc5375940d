import KeyLayers.Proofs.CommandLine.Script
import KeyLayers.Proofs.Output.RoundTrip

/-!
# A run does all or nothing

A run can fail in seven places: the arguments, the file that is read, its text,
the configuration in it, what this compiles to, the layout of the output, and
the file that is written.  The layout is the one that is easily got wrong, since
a negative width shows only when everything has been compiled, and the output may
be the very file that the configuration has come from.  So each stage is said on
its own here, what it starts from and what it gives, and a run either passes all
of them and then changes one file, or it fails in the first that it does not pass
and then changes none.  A failure undoes nothing: that the files are as they were
comes from the order of the steps alone.

## Main definitions

* `Reads`, `Loads`, `Compiles` — the stages that a run passes.
* `Fails`, `Succeeds` — how a run ends.
* `AllOrNothing` — what is left of the files.

## Main results

* `fails_or_succeeds` — every run ends in one of these ways.
* `Fails.failure_runOn`, `Succeeds.runOn_eq` — how a run ends in either way.
* `runOn_unchanged` — **a run that fails changes nothing.**
* `run_allOrNothing` — **a run does all or nothing.**
-/

namespace KeyLayers.CommandLine

section Stages

variable (fs : FileSystem) (arguments : List String)

/-! ### The stages of a run -/

/-- The arguments are understood, and the file that they name is read. -/
inductive Reads : Options → List UInt8 → Prop
  /-- The options tell where the configuration is. -/
  | intro {o : Options} {bytes : List UInt8} (parsed : Options.parse arguments = .ok o)
      (read : fs.read o.job.input = .ok bytes) : Reads o bytes

/-- The bytes of the file are a configuration. -/
inductive Loads : Options → Config → Prop
  /-- They are the text of a value tree, which passes its checks. -/
  | intro {o : Options} {bytes : List UInt8} {v : Value} {c : Config}
      (reads : Reads fs arguments o bytes) (value : valueOfBytes bytes = .ok v)
      (valid : Config.schema.validate v = .ok c) : Loads o c

/-- The configuration has an output, and the output has a text. -/
inductive Compiles : Options → String → Prop
  /-- The options tell the format, the title and the layout. -/
  | intro {o : Options} {c : Config} {output : Output} {i : Json.Indent}
      (loads : Loads fs arguments o c) (built : c.build o.format o.title = .ok output)
      (layout : Json.Indent.ofWidth o.job.indent = .ok i) : Compiles o (output.text i)

/-- A run fails in the first stage that it does not pass. -/
inductive Fails : Failure → Prop
  /-- The arguments ask for something else. -/
  | exit {e : Exit} (parsed : Options.parse arguments = .error e) : Fails (.exit e)
  /-- The file of the configuration cannot be read. -/
  | input {o : Options} {e : FileError} (parsed : Options.parse arguments = .ok o)
      (read : fs.read o.job.input = .error e) : Fails (.file e)
  /-- It is no text, or its text is no value tree. -/
  | value {o : Options} {bytes : List UInt8} {e : Failure} (reads : Reads fs arguments o bytes)
      (value : valueOfBytes bytes = .error e) : Fails e
  /-- The value tree is no configuration. -/
  | refusal {o : Options} {bytes : List UInt8} {v : Value} {r : Refusal}
      (reads : Reads fs arguments o bytes) (value : valueOfBytes bytes = .ok v)
      (valid : Config.schema.validate v = .error r) : Fails (.refusal r)
  /-- The configuration has no output. -/
  | build {o : Options} {c : Config} {e : BuildError} (loads : Loads fs arguments o c)
      (built : c.build o.format o.title = .error e) : Fails (.build e)
  /-- The output has no text. -/
  | width {o : Options} {c : Config} {output : Output} {e : Json.WidthError}
      (loads : Loads fs arguments o c) (built : c.build o.format o.title = .ok output)
      (layout : Json.Indent.ofWidth o.job.indent = .error e) : Fails (.width e)
  /-- The file of the output cannot be written. -/
  | output {o : Options} {text : String} {e : FileError} (compiles : Compiles fs arguments o text)
      (opened : fs.writes fs.files o.job.output = .error e) : Fails (.file e)

/-- A run that passes all stages has a text for the output and a file to write it to. -/
inductive Succeeds : String → String → Prop
  /-- The options tell where the output is to go. -/
  | intro {o : Options} {place text : String} (compiles : Compiles fs arguments o text)
      (opened : fs.writes fs.files o.job.output = .ok place) : Succeeds place text

/-- What a run leaves of the files: if it fails, all of them as they were, and else the whole text
of the output in its file and all others as they were. -/
structure AllOrNothing (failure : Option Failure) (files : Files) : Prop where
  /-- The run fails as the stages say. -/
  failure_iff : ∀ e, failure = some e ↔ Fails fs arguments e
  /-- Without a failure all stages have been passed. -/
  success_iff : failure = none ↔ ∃ place text, Succeeds fs arguments place text
  /-- A run that fails changes nothing. -/
  unchanged : failure ≠ none → files = fs.files
  /-- The output holds its text and nothing else. -/
  written : ∀ place text, Succeeds fs arguments place text →
    files.lookup place = some text.toUTF8.toList
  /-- No other file is made or changed. -/
  kept : ∀ place text, Succeeds fs arguments place text →
    ∀ name, name ≠ place → files.lookup name = fs.files.lookup name

end Stages

variable {fs : FileSystem} {arguments : List String}

/-- Every run fails in one of the stages or passes all of them. -/
theorem fails_or_succeeds (fs : FileSystem) (arguments : List String) :
    (∃ e, Fails fs arguments e) ∨ ∃ place text, Succeeds fs arguments place text := by
  cases hparsed : Options.parse arguments with
  | error e => exact .inl ⟨_, .exit hparsed⟩
  | ok o =>
  cases hread : fs.read o.job.input with
  | error e => exact .inl ⟨_, .input hparsed hread⟩
  | ok bytes =>
  have hreads : Reads fs arguments o bytes := .intro hparsed hread
  cases hvalue : valueOfBytes bytes with
  | error e => exact .inl ⟨_, .value hreads hvalue⟩
  | ok v =>
  cases hvalid : Config.schema.validate v with
  | error r => exact .inl ⟨_, .refusal hreads hvalue hvalid⟩
  | ok c =>
  have hloads : Loads fs arguments o c := .intro hreads hvalue hvalid
  cases hbuilt : c.build o.format o.title with
  | error e => exact .inl ⟨_, .build hloads hbuilt⟩
  | ok output =>
  cases hlayout : Json.Indent.ofWidth o.job.indent with
  | error e => exact .inl ⟨_, .width hloads hbuilt hlayout⟩
  | ok i =>
  have hcompiles : Compiles fs arguments o (output.text i) := .intro hloads hbuilt hlayout
  cases hopened : fs.writes fs.files o.job.output with
  | error e => exact .inl ⟨_, .output hcompiles hopened⟩
  | ok place => exact .inr ⟨_, _, .intro hcompiles hopened⟩

/-! ### What the stages say about a run -/

section Runs

variable {o : Options}

/-- A run whose arguments are understood is the job that they describe. -/
theorem runOn_parsed (h : Options.parse arguments = .ok o) :
    runOn arguments fs = (o.job.script o.verbose).aftermath fs := by
  rw [runOn, script, h]
  rfl

/-- What has been loaded has been read. -/
theorem Loads.exists_bytes {c : Config} (h : Loads fs arguments o c) :
    ∃ bytes, Options.parse arguments = .ok o ∧ fs.read o.job.input = .ok bytes ∧
      configOfBytes bytes = .ok c := by
  obtain ⟨⟨hparsed, hread⟩, hvalue, hvalid⟩ := h
  refine ⟨_, hparsed, hread, ?_⟩
  rw [configOfBytes, hvalue]
  simp only [hvalid]

/-- What has been compiled has been loaded. -/
theorem Compiles.exists_config {text : String} (h : Compiles fs arguments o text) :
    ∃ c, Loads fs arguments o c ∧ o.job.text c = .ok text := by
  obtain ⟨hloads, hbuilt, hlayout⟩ := h
  exact ⟨_, hloads, Job.text_eq hbuilt hlayout⟩

theorem Job.text_eq_build {j : Job} {c : Config} {e : BuildError}
    (h : c.build j.format j.title = .error e) : j.text c = .error (.build e) := by
  rw [Job.text, h]

theorem Job.text_eq_width {j : Job} {c : Config} {output : Output} {e : Json.WidthError}
    (h : c.build j.format j.title = .ok output)
    (hlayout : Json.Indent.ofWidth j.indent = .error e) : j.text c = .error (.width e) := by
  rw [Job.text, h]
  simp only [hlayout]

theorem Reads.failure_runOn {bytes : List UInt8} {e : Failure} (h : Reads fs arguments o bytes)
    (hconfig : configOfBytes bytes = .error e) : (runOn arguments fs).failure = some e := by
  obtain ⟨hparsed, hread⟩ := h
  rw [runOn_parsed hparsed]
  exact Job.failure_script_config _ hread hconfig

theorem Loads.failure_runOn {c : Config} {e : Failure} (h : Loads fs arguments o c)
    (htext : o.job.text c = .error e) : (runOn arguments fs).failure = some e := by
  obtain ⟨bytes, hparsed, hread, hconfig⟩ := h.exists_bytes
  rw [runOn_parsed hparsed]
  exact Job.failure_script_text _ hread hconfig htext

/-- A run that does not pass some stage fails there. -/
theorem Fails.failure_runOn {e : Failure} (h : Fails fs arguments e) :
    (runOn arguments fs).failure = some e := by
  cases h with
  | exit hparsed =>
    rw [runOn, script, hparsed]
    rfl
  | input hparsed hread =>
    rw [runOn_parsed hparsed, Job.script, Script.aftermath_read_error hread]
  | value hreads hvalue => exact hreads.failure_runOn (by rw [configOfBytes, hvalue])
  | refusal hreads hvalue hvalid =>
    refine hreads.failure_runOn ?_
    rw [configOfBytes, hvalue]
    simp only [hvalid]
  | build hloads hbuilt => exact hloads.failure_runOn (Job.text_eq_build hbuilt)
  | width hloads hbuilt hlayout => exact hloads.failure_runOn (Job.text_eq_width hbuilt hlayout)
  | output hcompiles hopened =>
    obtain ⟨c, hloads, htext⟩ := hcompiles.exists_config
    obtain ⟨bytes, hparsed, hread, hconfig⟩ := hloads.exists_bytes
    rw [runOn_parsed hparsed]
    exact Job.failure_script_output _ hread hconfig htext hopened

/-- A run that passes all stages writes the output. -/
theorem Succeeds.runOn_eq {place text : String} (h : Succeeds fs arguments place text) :
    (runOn arguments fs).failure = none ∧
      (runOn arguments fs).system = fs.put place text.toUTF8.toList := by
  obtain ⟨hcompiles, hopened⟩ := h
  obtain ⟨c, hloads, htext⟩ := hcompiles.exists_config
  obtain ⟨bytes, hparsed, hread, hconfig⟩ := hloads.exists_bytes
  rw [runOn_parsed hparsed]
  exact Job.aftermath_script _ hread hconfig htext hopened

end Runs

/-! ### All or nothing -/

/-- **A run that fails changes nothing**, whatever the stage is that it does not pass. -/
theorem runOn_unchanged (arguments : List String) (fs : FileSystem)
    (h : (runOn arguments fs).failure ≠ none) : (runOn arguments fs).system = fs :=
  (script_writesLast arguments).unchanged fs h

theorem runOn_allOrNothing (arguments : List String) (fs : FileSystem) :
    AllOrNothing fs arguments (runOn arguments fs).failure (runOn arguments fs).system.files where
  failure_iff := by
    intro e
    constructor
    · intro h
      rcases fails_or_succeeds fs arguments with ⟨e', hfails⟩ | ⟨place, text, hsucceeds⟩
      · rw [hfails.failure_runOn] at h
        obtain rfl := Option.some.inj h
        exact hfails
      · rw [hsucceeds.runOn_eq.1] at h
        cases h
    · exact Fails.failure_runOn
  success_iff := by
    constructor
    · intro h
      rcases fails_or_succeeds fs arguments with ⟨e, hfails⟩ | hsucceeds
      · rw [hfails.failure_runOn] at h
        cases h
      · exact hsucceeds
    · rintro ⟨place, text, hsucceeds⟩
      exact hsucceeds.runOn_eq.1
  unchanged := by
    intro hfailure
    rw [runOn_unchanged arguments fs hfailure]
  written := by
    intro place text hsucceeds
    rw [hsucceeds.runOn_eq.2]
    exact Directory.lookup_put place _ fs.files
  kept := by
    intro place text hsucceeds name hname
    rw [hsucceeds.runOn_eq.2]
    exact Directory.lookup_put_of_ne hname _ fs.files

/-- **A run does all or nothing.**  This holds for all arguments, on every system of files, wherever
its paths lead, and so for the runs in a directory. -/
theorem run_allOrNothing (arguments : List String) :
    (∀ fs, AllOrNothing fs arguments (runOn arguments fs).failure
      (runOn arguments fs).system.files) ∧
    ∀ d : Directory, AllOrNothing d.fileSystem arguments (run arguments d).failure
      (run arguments d).directory.files := by
  constructor
  · exact runOn_allOrNothing arguments
  · -- a run in a directory is a run on its files
    intro d
    exact runOn_allOrNothing arguments d.fileSystem

/-- A directory with an empty configuration and another file. -/
def Directory.withNotes : Directory := ⟨[("config.toml", []), ("notes.txt", [0x68, 0x69])]⟩

theorem Directory.locate_configuration (d : Directory) :
    d.locate (.ofString "config.toml") = .ok "config.toml" := by
  have htext : (FilePath.ofString "config.toml").text = "config.toml" := rfl
  have hnull : ¬ ("config.toml".contains '\x00' = true) := by
    rw [String.contains_char_eq]
    decide
  rw [locate, htext, if_neg hnull]
  rfl

/-- The file of a configuration is overwritten in place, but not if the width is negative. -/
theorem run_allOrNothing_inPlace :
    (run ["config.toml", "config.toml", "--indent", "0"] .withNotes).directory.files.lookup
      "config.toml" = some (Output.text (.rules ⟨"Hyper key sublayers", []⟩)
        (.spaces 0)).toUTF8.toList ∧
    (run ["config.toml", "config.toml", "--indent", "0"] .withNotes).directory.files.lookup
      "notes.txt" = some [0x68, 0x69] ∧
    (run ["config.toml", "config.toml", "--indent", "-1"] .withNotes).failure =
      some (.width .negative) ∧
    (run ["config.toml", "config.toml", "--indent", "-1"] .withNotes).directory.files =
      Directory.withNotes.files := by
  have hread : Directory.withNotes.fileSystem.read (.ofString "config.toml") = .ok [] := by
    show Directory.withNotes.read (.ofString "config.toml") = .ok []
    rw [Directory.read, Directory.locate_configuration]
    rfl
  have hloads : ∀ indent width, Options.parse ["config.toml", "config.toml", "--indent", indent] =
      .ok ⟨"config.toml", "config.toml", some width, some "rules", none, false⟩ →
      Loads Directory.withNotes.fileSystem ["config.toml", "config.toml", "--indent", indent]
        ⟨"config.toml", "config.toml", some width, some "rules", none, false⟩ {} :=
    fun indent width hparsed => .intro (.intro hparsed hread) rfl rfl
  have hzero := (run_allOrNothing ["config.toml", "config.toml", "--indent", "0"]).2 .withNotes
  have hsucceeds : Succeeds Directory.withNotes.fileSystem
      ["config.toml", "config.toml", "--indent", "0"] "config.toml"
      (Output.text (.rules ⟨"Hyper key sublayers", []⟩) (.spaces 0)) :=
    .intro (.intro (hloads "0" 0 rfl) rfl rfl) (Directory.locate_configuration _)
  have hnegative := (run_allOrNothing ["config.toml", "config.toml", "--indent", "-1"]).2 .withNotes
  have hfailure := (hnegative.failure_iff (.width .negative)).mpr
    (.width (hloads "-1" (-1) rfl) rfl rfl)
  refine ⟨hzero.written _ _ hsucceeds, hzero.kept _ _ hsucceeds _ (by decide), hfailure, ?_⟩
  exact hnegative.unchanged (by rw [hfailure]; exact Option.some_ne_none _)

end KeyLayers.CommandLine
