import KeyLayers.Output.Reading
import KeyLayers.Proofs.CommandLine.Script
import KeyLayers.Proofs.Host.RoundTrip
import KeyLayers.Proofs.Json.Printing
import KeyLayers.Proofs.Text.Utf8

/-!
# What is written for the host can be read back

The text of an output is JSON, it spells the value tree of the output, and its
schema reads that tree as the output again.  The first half needs the printer to
follow the grammar and every record to have each field once; the second half is
that records survive being written, also where fields that hold nothing have
been dropped.  A file holds the bytes of the text, and these are read as the text.

## Main results

* `Output.plain_toValue` — the value tree of an output is one that JSON can hold.
* `Output.read_text`, `Format.readBack_text` — every text of an output is read as its value tree
  and as that output.
* `Job.read_output` — a run leaves the text of its configuration behind.
* `Config.text_readBack` — **what a configuration is compiled into can be read back.**
-/

namespace KeyLayers

open Json

variable {α : Type}

/-! ### Value trees that JSON can hold -/

theorem plain_ofOption {write : α → Value} (h : ∀ a, Plain (write a)) (o : Option α) :
    Plain (.ofOption write o) := by
  cases o with
  | none => exact .null
  | some a => exact h a

theorem plain_listMap {write : α → Value} (h : ∀ a, Plain (write a)) (as : List α) :
    Plain (.list (as.map write)) := by
  refine .list fun v hv => ?_
  obtain ⟨a, -, rfl⟩ := List.mem_map.mp hv
  exact h a

/-- A record with distinct fields, whether or not those that hold nothing are dropped. -/
theorem plain_record (f : Form) {fields : Entries Value} (hkeys : (Entries.keys fields).Nodup)
    (h : ∀ e ∈ fields, Plain e.2) : Plain (f.record fields) := by
  have hsublist : (f.fields fields).Sublist fields := by
    cases f with
    | full => exact .refl _
    | wire => exact List.filter_sublist
  rw [Form.record_eq]
  exact .map (hkeys.sublist (hsublist.map Prod.fst)) fun e he => h e (hsublist.subset he)

theorem Scalar.plain_toValue (x : Scalar) : Plain x.toValue := by
  cases x with
  | text s => exact .text s
  | int n => exact .int n
  | bool b => exact .bool b

namespace Host

variable (f : Form)

theorem Modifier.plain_toValue (m : Modifier) : Plain m.toValue := .text m.name

theorem plain_modifiersValue (ms : List Modifier) : Plain (modifiersValue ms) :=
  plain_listMap Modifier.plain_toValue ms

theorem Condition.plain_toValue (c : Condition) : Plain (c.toValue f) :=
  plain_record f (by simp) (by simp [ConditionKind.toValue, Plain.text, Scalar.plain_toValue])

theorem TriggerModifiers.plain_toValue (m : TriggerModifiers) : Plain (m.toValue f) :=
  plain_record f (by simp) (by simp [plain_ofOption plain_modifiersValue])

theorem Trigger.plain_toValue (t : Trigger) : Plain (t.toValue f) :=
  plain_record f (by simp)
    (by simp [Plain.text, plain_ofOption (TriggerModifiers.plain_toValue f)])

theorem Assignment.plain_toValue (v : Assignment) : Plain (v.toValue f) :=
  plain_record f (by simp) (by simp [Plain.text, Scalar.plain_toValue])

theorem Event.plain_toValue (e : Event) : Plain (e.toValue f) :=
  plain_record f (by simp)
    (by simp [plain_ofOption Plain.text, plain_ofOption (Assignment.plain_toValue f),
      plain_ofOption plain_modifiersValue])

theorem plain_eventsValue (es : List Event) : Plain (eventsValue f es) :=
  plain_listMap (Event.plain_toValue f) es

theorem Manipulator.plain_toValue (m : Manipulator) : Plain (m.toValue f) :=
  plain_record f (by cases f <;> simp [triggerName])
    (by simp [Plain.text, plain_ofOption Plain.text, plain_listMap (Condition.plain_toValue f),
      Trigger.plain_toValue, plain_ofOption (plain_eventsValue f)])

theorem Replacement.plain_toValue (r : Replacement) : Plain (r.toValue f) :=
  plain_record f (by cases f <;> simp [triggerName])
    (by simp [Trigger.plain_toValue, plain_eventsValue])

theorem Rule.plain_toValue (r : Rule) : Plain (r.toValue f) :=
  plain_record f (by simp) (by simp [Plain.text, plain_listMap (Manipulator.plain_toValue f)])

theorem plain_rulesValue (rs : List Rule) : Plain (rulesValue f rs) :=
  plain_listMap (Rule.plain_toValue f) rs

theorem RuleFile.plain_toValue (s : RuleFile) : Plain (s.toValue f) :=
  plain_record f (by simp) (by simp [Plain.text, plain_rulesValue])

theorem RuleBlock.plain_toValue (b : RuleBlock) : Plain (b.toValue f) :=
  plain_record f (by simp) (by simp [plain_rulesValue])

theorem Profile.plain_toValue (p : Profile) : Plain (p.toValue f) :=
  plain_record f (by simp)
    (by simp [RuleBlock.plain_toValue, plain_listMap (Replacement.plain_toValue f)])

end Host

/-! ### Texts -/

theorem Output.plain_toValue (f : Form) (o : Output) : Plain (o.toValue f) := by
  cases o with
  | rules s => exact s.plain_toValue f
  | profile p => exact p.plain_toValue f

theorem isWhite_lineEnd : IsWhite "\n".toList := by
  intro c hc
  obtain rfl : c = '\n' := by simpa using hc
  rfl

/-- The text of an output is read as its value tree. -/
theorem Output.read_text (o : Output) (i : Indent) : read (o.text i) = some (o.toValue .wire) :=
  read_render i (o.plain_toValue .wire) isWhite_lineEnd

theorem Format.validate_written (o : Output) (f : Form) :
    o.format.validate (o.toValue f) = .ok o := by
  cases o with
  | rules s =>
    have hdecode : Host.RuleFile.schema.decode (s.toValue f) = .accepted s :=
      (Host.RuleFile.restores f).decode s
    show (Host.RuleFile.schema.validate (s.toValue f)).map Output.rules = _
    rw [Schema.validate, hdecode]
    rfl
  | profile p =>
    have hdecode : Host.Profile.schema.decode (p.toValue f) = .accepted p :=
      (Host.Profile.restores f).decode p
    show (Host.Profile.schema.validate (p.toValue f)).map Output.profile = _
    rw [Schema.validate, hdecode]
    rfl

/-- Every text of an output is read as that output. -/
theorem Format.readBack_text (o : Output) (i : Indent) :
    o.format.readBack (o.text i) = some (.ok o) := by
  rw [readBack, o.read_text i, Option.map_some, validate_written]

/-! ### Jobs -/

theorem Json.Indent.ofWidth_spaces {n : ℕ} (h : n < Nat.pow 2 63) :
    Indent.ofWidth (.spaces n) = .ok (.spaces n) := by
  have hnegative : ¬ ((n : ℤ) < 0) := by omega
  have hmemory : ¬ ((Nat.pow 2 63 : ℕ) : ℤ) ≤ n := by omega
  have hlarge : ¬ ((Nat.pow 2 64 : ℕ) : ℤ) ≤ n := by
    have hpow : Nat.pow 2 63 ≤ Nat.pow 2 64 := by decide
    omega
  rw [Indent.ofWidth, if_neg hnegative, if_neg hlarge, if_neg hmemory]
  rfl

theorem CommandLine.Job.text_eq {j : Job} {c : Config} {o : Output} {i : Indent}
    (h : c.build j.format j.title = .ok o) (hi : Indent.ofWidth j.indent = .ok i) :
    j.text c = .ok (o.text i) := by
  rw [text, h]
  simp only [hi]
  rfl

theorem Format.readBytes_toUTF8 (format : Format) (text : String) :
    format.readBytes text.toUTF8.toList = format.readBack text := by
  rw [readBytes, Text.Utf8.decode_toUTF8]
  exact congrArg format.readBack String.ofList_toList

/-- A job leaves the text of its configuration behind. -/
theorem CommandLine.Job.read_output {j : Job} {d d' : Directory} {bytes : List UInt8} {c : Config}
    (hread : d.read j.input = .ok bytes) (hconfig : configOfBytes bytes = .ok c)
    (h : j.run d = .ok d') :
    ∃ text, j.text c = .ok text ∧ d'.read j.output = .ok text.toUTF8.toList := by
  have hread' : d.fileSystem.read j.input = .ok bytes := hread
  rw [run] at h
  cases htext : j.text c with
  | error e => simp [failure_script_text false hread' hconfig htext] at h
  | ok text =>
    cases hopened : d.fileSystem.writes d.fileSystem.files j.output with
    | error e => simp [failure_script_output false hread' hconfig htext hopened] at h
    | ok place =>
      obtain ⟨hfailure, hsystem⟩ := aftermath_script false hread' hconfig htext hopened
      simp only [hfailure, hsystem] at h
      obtain rfl := Except.ok.inj h
      exact ⟨text, rfl, Directory.read_put hopened _⟩

open CommandLine in
/-- **What a configuration is compiled into can be read back.**  In every layout, also with
more spaces than a run can write, the text is JSON and spells the value tree of the
output, and the schema of its format reads this tree as the output again.  So two
texts in different layouts mean the same.  A run writes exactly such a text, for
the compact layout and for every width that a run has memory for, and the file
that it leaves behind is read as the output. -/
theorem Config.text_readBack (c : Config) (format title : Option String) (o : Output)
    (h : c.build format title = .ok o) :
    (∀ i : Indent, Spells (o.toValue .wire) (o.text i).toList ∧
      read (o.text i) = some (o.toValue .wire) ∧ o.format.validate (o.toValue .wire) = .ok o) ∧
    (∀ i i' : Indent, read (o.text i) = read (o.text i')) ∧
    ∀ j : Job, j.format = format → j.title = title →
      (∀ text, j.text c = .ok text →
        (∃ i, text = o.text i) ∧ o.format.readBack text = some (.ok o)) ∧
      (j.indent = .compact → j.text c = .ok (o.text .compact)) ∧
      (∀ n : ℕ, n < Nat.pow 2 63 → j.indent = .spaces n →
        j.text c = .ok (o.text (.spaces n))) ∧
      ∀ d bytes d', d.read j.input = .ok bytes → configOfBytes bytes = .ok c →
        j.run d = .ok d' →
        ∃ file, d'.read j.output = .ok file ∧ o.format.readBytes file = some (.ok o) := by
  refine ⟨fun i => ?_, fun i i' => (o.read_text i).trans (o.read_text i').symm, ?_⟩
  · exact ⟨read_eq_some_iff.mp (o.read_text i), o.read_text i, Format.validate_written o .wire⟩
  rintro j rfl rfl
  have hback (text : String) (htext : j.text c = .ok text) :
      (∃ i, text = o.text i) ∧ o.format.readBack text = some (.ok o) := by
    cases hi : Indent.ofWidth j.indent with
    | error e => simp [Job.text, h, hi] at htext
    | ok i =>
      obtain rfl : o.text i = text := Except.ok.inj ((Job.text_eq h hi).symm.trans htext)
      exact ⟨⟨i, rfl⟩, Format.readBack_text o i⟩
  refine ⟨hback, fun hcompact => ?_, fun n hn hspaces => ?_, fun d bytes d' hd hconfig hrun => ?_⟩
  · exact Job.text_eq h (by rw [hcompact]; rfl)
  · exact Job.text_eq h (by rw [hspaces, Indent.ofWidth_spaces hn])
  · obtain ⟨text, htext, hfile⟩ := Job.read_output hd hconfig hrun
    exact ⟨_, hfile, (Format.readBytes_toUTF8 _ _).trans (hback text htext).2⟩

/-- A root key with a command whose texts need all kinds of escapes. -/
def Config.manyEscapes : Config where
  title := some "\"Hyper\" \\ \x01\t\u00e9\u2028"
  functionKeys := true
  layers := [⟨"b", .command ⟨.shell "printf '\\n' \"\x7f\"", none⟩⟩]

/-- The job that compiles a configuration into a fragment of a profile. -/
def CommandLine.Job.ofProfile : Job where
  input := .ofString "layers.toml"
  output := .ofString "layers.json"
  format := some "profile"

/-- Its fragment of a profile is written and read back. -/
theorem Config.text_readBack_manyEscapes : ∃ o, manyEscapes.build (some "profile") none = .ok o ∧
    CommandLine.Job.ofProfile.text manyEscapes = .ok (o.text (.spaces 2)) ∧
    o.format.readBack (o.text (.spaces 2)) = some (.ok o) ∧
    read (o.text (.spaces 2)) = read (o.text .compact) := by
  have hbuilds : (manyEscapes.build (some "profile") none).toOption.isSome := by decide +kernel
  cases hbuild : manyEscapes.build (some "profile") none with
  | error e => simp [hbuild, Except.toOption] at hbuilds
  | ok o =>
    obtain ⟨-, hsame, hjob⟩ := text_readBack manyEscapes (some "profile") none o hbuild
    obtain ⟨hread, -, hspaces, -⟩ := hjob .ofProfile rfl rfl
    have htext := hspaces 2 (by decide) rfl
    exact ⟨o, rfl, htext, (hread _ htext).2, hsame _ _⟩

end KeyLayers
