import Mathlib.Data.List.Nodup
import Mathlib.Tactic.Common
import KeyLayers.Schema.Decoder

/-!
# Which value trees a decoder accepts

A decoder collects everything that is wrong with a value tree, and what it
answers depends on all of it.  Whether it accepts the tree is a simpler question,
and one that can be answered part by part: a list is accepted if its items are, a
record if its fields are.  Only a rule that joins several fields asks for what
the fields have been read as, and all that these rules ask is which of the fields
hold something.

## Main definitions

* `Verdict.Fits` — a value is accepted.
* `Verdict.Yields` — a value is accepted, and what has been read has a property.
* `IsText`, `OrNull`, `IsListOf`, `IsMapOf` — shapes of values.
* `IfThere`, `Gives`, `GivesOne` — what stands at the fields of a record.

## Main results

* `fits_listOf_iff`, `fits_mappingOf_iff`, … — composed values.
* `fits_defaulted_iff`, `fits_required_iff` — single fields.
* `fits_closedRecord_iff` — **records whose fields are joined by a rule.**
* `count_eq_one_iff_givesOne` — one of the fields that are read holds something.
-/

namespace KeyLayers

open Decoder

variable {α β : Type}

/-! ### Verdicts -/

namespace Verdict

/-- Something has been read. -/
def Fits (v : Verdict α) : Prop := ∃ a, v = .accepted a

/-- Something with the property `P` has been read. -/
def Yields (v : Verdict α) (P : α → Prop) : Prop := ∃ a, v = .accepted a ∧ P a

theorem not_fits_refused (issues : List Issue) : ¬ (refused issues : Verdict α).Fits := by
  rintro ⟨a, h⟩
  cases h

theorem map_eq_accepted_iff {f : α → β} {v : Verdict α} {b : β} :
    v.map f = .accepted b ↔ ∃ a, v = .accepted a ∧ f a = b := by
  cases v with
  | accepted a => simp [map]
  | refused issues => simp [map]

theorem apply_eq_accepted_iff {f : Verdict (α → β)} {v : Verdict α} {b : β} :
    f.apply v = .accepted b ↔ ∃ g a, f = .accepted g ∧ v = .accepted a ∧ g a = b := by
  cases f with
  | accepted g =>
    cases v with
    | accepted a => simp [apply]
    | refused issues => simp [apply]
  | refused issues =>
    cases v with
    | accepted a => simp [apply]
    | refused more => simp [apply]

theorem below_eq_accepted_iff {s : Step} {v : Verdict α} {a : α} :
    v.below s = .accepted a ↔ v = .accepted a := by
  cases v with
  | accepted b => rfl
  | refused issues => simp [below]

theorem withIssues_eq_accepted_iff {v : Verdict α} {issues : List Issue} {a : α} :
    v.withIssues issues = .accepted a ↔ v = .accepted a ∧ issues = [] := by
  cases v with
  | accepted b =>
    cases issues with
    | nil => simp [withIssues]
    | cons issue issues => simp [withIssues]
  | refused found => simp [withIssues]

theorem settle_eq_accepted_iff {wording : β → String} {v : Verdict (Except β α)} {a : α} :
    v.settle wording = .accepted a ↔ v = .accepted (.ok a) := by
  cases v with
  | accepted r =>
    cases r with
    | ok b => simp [settle]
    | error e => simp [settle, refuse]
  | refused issues => simp [settle]

theorem yields_map_iff {f : α → β} {v : Verdict α} {P : β → Prop} :
    (v.map f).Yields P ↔ v.Yields fun a => P (f a) := by
  simp only [Yields, map_eq_accepted_iff, exists_exists_and_eq_and]

/-- Parts that are read one after the other have a property together. -/
theorem yields_apply_iff {f : Verdict (α → β)} {v : Verdict α} {P : β → Prop} :
    (f.apply v).Yields P ↔ f.Yields fun g => v.Yields fun a => P (g a) := by
  constructor
  · rintro ⟨b, hb, hP⟩
    obtain ⟨g, a, hg, ha, rfl⟩ := apply_eq_accepted_iff.mp hb
    exact ⟨g, hg, a, ha, hP⟩
  · rintro ⟨g, hg, a, ha, hP⟩
    exact ⟨g a, apply_eq_accepted_iff.mpr ⟨g, a, hg, ha, rfl⟩, hP⟩

theorem fits_map_iff {f : α → β} {v : Verdict α} : (v.map f).Fits ↔ v.Fits := by
  simp [Fits, map_eq_accepted_iff]

theorem fits_apply_iff {f : Verdict (α → β)} {v : Verdict α} :
    (f.apply v).Fits ↔ f.Fits ∧ v.Fits := by
  simp [Fits, apply_eq_accepted_iff]

theorem fits_below_iff {s : Step} {v : Verdict α} : (v.below s).Fits ↔ v.Fits := by
  simp only [Fits, below_eq_accepted_iff]

end Verdict

/-! ### Shapes of values -/

/-- The value is a text. -/
def IsText (v : Value) : Prop := ∃ s, v = .text s

/-- The value is nothing, or it has the shape `P`. -/
def OrNull (P : Value → Prop) (v : Value) : Prop := v = .null ∨ P v

/-- The value is a list of values of the shape `P`. -/
def IsListOf (P : Value → Prop) (v : Value) : Prop := ∃ vs, v = .list vs ∧ ∀ item ∈ vs, P item

/-- The value is a mapping to values of the shape `P`. -/
def IsMapOf (P : Value → Prop) (v : Value) : Prop := ∃ es, v = .map es ∧ ∀ e ∈ es, P e.2

/-- The value is a mapping whose entries have the property `F`. -/
def IsRecord (F : Entries Value → Prop) (v : Value) : Prop := ∃ es, v = .map es ∧ F es

section Shapes

variable {d : Decoder α} {P : Value → Prop} {v : Value}

theorem fits_text_iff : (text v).Fits ↔ IsText v := by
  cases v with
  | text s => exact ⟨fun _ => ⟨s, rfl⟩, fun _ => ⟨s, rfl⟩⟩
  | _ =>
    refine ⟨fun h => absurd h (Verdict.not_fits_refused _), ?_⟩
    rintro ⟨s, h⟩
    cases h

theorem fits_choice_iff {members : List α} {name : α → String} :
    (choice members name v).Fits ↔ ∃ a ∈ members, v = .text (name a) := by
  cases v with
  | text s =>
    cases hfind : members.find? fun m => name m = s with
    | none =>
      have hread : choice members name (.text s) = .refuse (.notChoice (members.map name)) := by
        simp only [choice, hfind]
      rw [hread]
      refine ⟨fun h => absurd h (Verdict.not_fits_refused _), ?_⟩
      rintro ⟨a, ha, h⟩
      obtain rfl := Value.text.inj h
      simpa using List.find?_eq_none.mp hfind a ha
    | some a =>
      have hread : choice members name (.text s) = .accepted a := by simp only [choice, hfind]
      have ha : name a = s := by
        simpa using List.find?_some (p := fun m => decide (name m = s)) hfind
      rw [hread]
      refine ⟨fun _ => ⟨a, List.mem_of_find?_eq_some hfind, by rw [ha]⟩, fun _ => ⟨a, rfl⟩⟩
  | _ =>
    refine ⟨fun h => absurd h (Verdict.not_fits_refused _), ?_⟩
    rintro ⟨a, -, h⟩
    cases h

theorem fits_nullable_iff (hd : ∀ v, (d v).Fits ↔ P v) : (nullable d v).Fits ↔ OrNull P v := by
  cases v with
  | null => exact ⟨fun _ => Or.inl rfl, fun _ => ⟨none, rfl⟩⟩
  | _ =>
    simp only [nullable, Verdict.map_eq, Verdict.fits_map_iff, hd, OrNull, reduceCtorEq, false_or]

theorem fits_items_iff (hd : ∀ v, (d v).Fits ↔ P v) (i : ℕ) (vs : List Value) :
    (items d i vs).Fits ↔ ∀ item ∈ vs, P item := by
  induction vs generalizing i with
  | nil => exact ⟨fun _ => List.forall_mem_nil _, fun _ => ⟨[], rfl⟩⟩
  | cons v vs ih =>
    simp only [items, Verdict.map_eq, Verdict.seq_eq, Verdict.fits_apply_iff, Verdict.fits_map_iff,
      Verdict.fits_below_iff, hd, ih, List.forall_mem_cons]

/-- A list is read item by item. -/
theorem length_of_items {i : ℕ} {vs : List Value} {as : List α}
    (h : items d i vs = .accepted as) : as.length = vs.length := by
  induction vs generalizing i as with
  | nil =>
    obtain rfl := Verdict.accepted.inj h
    rfl
  | cons v vs ih =>
    simp only [items, Verdict.map_eq, Verdict.seq_eq, Verdict.apply_eq_accepted_iff,
      Verdict.map_eq_accepted_iff] at h
    obtain ⟨_, rest, ⟨a, -, rfl⟩, hrest, rfl⟩ := h
    rw [List.length_cons, List.length_cons, ih hrest]

theorem fits_listOf_iff (hd : ∀ v, (d v).Fits ↔ P v) : (listOf d v).Fits ↔ IsListOf P v := by
  cases v with
  | list vs =>
    have hitems : (listOf d (.list vs)).Fits ↔ ∀ item ∈ vs, P item := fits_items_iff hd 0 vs
    simp only [hitems, IsListOf, Value.list.injEq, exists_eq_left']
  | _ =>
    refine ⟨fun h => absurd h (Verdict.not_fits_refused _), ?_⟩
    rintro ⟨vs, h, -⟩
    cases h

theorem fits_values_iff (hd : ∀ v, (d v).Fits ↔ P v) (es : Entries Value) :
    (values d es).Fits ↔ ∀ e ∈ es, P e.2 := by
  induction es with
  | nil => exact ⟨fun _ => List.forall_mem_nil _, fun _ => ⟨[], rfl⟩⟩
  | cons e es ih =>
    simp only [values, Verdict.map_eq, Verdict.seq_eq, Verdict.fits_apply_iff,
      Verdict.fits_map_iff, Verdict.fits_below_iff, hd, ih, List.forall_mem_cons]

theorem fits_mappingOf_iff (hd : ∀ v, (d v).Fits ↔ P v) :
    (mappingOf d v).Fits ↔ IsMapOf P v := by
  cases v with
  | map es =>
    simp only [mappingOf, Verdict.map_eq, Verdict.fits_map_iff, fits_values_iff hd, IsMapOf,
      Value.map.injEq, exists_eq_left']
  | _ =>
    refine ⟨fun h => absurd h (Verdict.not_fits_refused _), ?_⟩
    rintro ⟨es, h, -⟩
    cases h

theorem fits_record_iff {model : String} {fields : Entries Value → Verdict α}
    {F : Entries Value → Prop} (hfields : ∀ es, (fields es).Fits ↔ F es) :
    (record model fields v).Fits ↔ IsRecord F v := by
  cases v with
  | map es => simp only [record, hfields, IsRecord, Value.map.injEq, exists_eq_left']
  | _ =>
    refine ⟨fun h => absurd h (Verdict.not_fits_refused _), ?_⟩
    rintro ⟨es, h, -⟩
    cases h

end Shapes

/-! ### Fields -/

/-- What stands at the field, if it is there, has the shape `P`. -/
def IfThere (P : Value → Prop) (es : Entries Value) (name : String) : Prop :=
  ∀ v, Entries.find? name es = some v → P v

/-- The field holds something: it is there, and it is not null. -/
def Gives (es : Entries Value) (name : String) : Prop :=
  ∃ v, Entries.find? name es = some v ∧ v ≠ .null

/-- Exactly one of the fields holds something. -/
def GivesOne (es : Entries Value) (names : List String) : Prop :=
  ∃! name, name ∈ names ∧ Gives es name

section Fields

variable {d : Decoder α} {P : Value → Prop} {es : Entries Value} {name : String}

theorem fits_defaulted_iff (hd : ∀ v, (d v).Fits ↔ P v) {default : α} :
    (defaulted name default d es).Fits ↔ IfThere P es name := by
  unfold defaulted IfThere
  cases hfind : Entries.find? name es with
  | none => exact ⟨fun _ _ h => absurd h (by simp), fun _ => ⟨default, rfl⟩⟩
  | some v => simp only [Verdict.fits_below_iff, hd, Option.some.injEq, forall_eq']

theorem fits_required_iff (hd : ∀ v, (d v).Fits ↔ P v) :
    (required name d es).Fits ↔ ∃ v, Entries.find? name es = some v ∧ P v := by
  unfold required
  cases hfind : Entries.find? name es with
  | none =>
    refine ⟨fun h => absurd h (Verdict.not_fits_refused _), ?_⟩
    rintro ⟨v, h, -⟩
    cases h
  | some v => simp only [Verdict.fits_below_iff, hd, Option.some.injEq, exists_eq_left']

/-- An optional field is read as something if it holds something. -/
theorem isSome_iff_gives {o : Option α}
    (h : defaulted name none (nullable d) es = .accepted o) : o.isSome = true ↔ Gives es name := by
  unfold defaulted at h
  cases hfind : Entries.find? name es with
  | none =>
    rw [hfind] at h
    obtain rfl := Verdict.accepted.inj h
    refine ⟨fun hsome => absurd hsome (by simp), ?_⟩
    rintro ⟨v, hv, -⟩
    rw [hfind] at hv
    cases hv
  | some v =>
    simp only [hfind, Verdict.below_eq_accepted_iff] at h
    have hgives : Gives es name ↔ v ≠ .null := by
      simp only [Gives, hfind, Option.some.injEq, exists_eq_left']
    rw [hgives]
    cases v with
    | null =>
      obtain rfl := Verdict.accepted.inj h
      simp
    | _ =>
      obtain ⟨a, -, rfl⟩ := Verdict.map_eq_accepted_iff.mp h
      simp

/-- A list that may be missing is read as something if there are items in it. -/
theorem ne_nil_iff_of_defaulted {as : List α}
    (h : defaulted name [] (listOf d) es = .accepted as) :
    as ≠ [] ↔ ∃ item items, Entries.find? name es = some (.list (item :: items)) := by
  unfold defaulted at h
  cases hfind : Entries.find? name es with
  | none =>
    rw [hfind] at h
    obtain rfl := Verdict.accepted.inj h
    simp
  | some v =>
    simp only [hfind, Verdict.below_eq_accepted_iff] at h
    cases v with
    | list vs =>
      have hlength : as.length = vs.length := length_of_items h
      cases vs with
      | nil => simp [List.length_eq_zero_iff.mp hlength]
      | cons v vs => simp [← List.length_pos_iff, hlength]
    | _ => cases h

/-- Fields that are joined by a rule, in a record without other fields. -/
theorem fits_closedRecord_iff {model : String} {names known : List String}
    (hnames : names.Perm known) {fields : Entries Value → Verdict (Except β α)}
    {wording : β → String} {F : Entries Value → Prop}
    (hfields : ∀ es, ((fields es).Yields fun r => ∃ a, r = .ok a) ↔ F es) {v : Value} :
    ((closedRecord model names fields v).settle wording).Fits ↔
      IsRecord (fun es => (∀ e ∈ es, e.1 ∈ known) ∧ F es) v := by
  cases v with
  | map es =>
    have hunknown : ((es.filter fun e => !names.contains e.1).map fun e =>
        (⟨[.name e.1], .unknownField⟩ : Issue)) = [] ↔ ∀ e ∈ es, e.1 ∈ known := by
      simp [List.filter_eq_nil_iff, hnames.mem_iff]
    have hjoined : (∃ a, fields es = .accepted (.ok a)) ↔ F es := by
      rw [← hfields]
      exact ⟨fun ⟨a, h⟩ => ⟨_, h, a, rfl⟩, fun ⟨_, h, a, hr⟩ => ⟨a, hr ▸ h⟩⟩
    simp only [Verdict.Fits, Verdict.settle_eq_accepted_iff, closedRecord, record,
      Verdict.withIssues_eq_accepted_iff, hunknown, exists_and_right, hjoined, IsRecord,
      Value.map.injEq, exists_eq_left']
    exact and_comm
  | _ =>
    refine ⟨fun h => absurd h (Verdict.not_fits_refused _), ?_⟩
    rintro ⟨es, h, -⟩
    cases h

/-! ### Exactly one field -/

/-- Of a list without repetitions one element passes a test if only one is left by it. -/
theorem length_filter_eq_one_iff {names : List String} (hnodup : names.Nodup)
    {p : String → Bool} :
    (names.filter p).length = 1 ↔ ∃! name, name ∈ names ∧ p name = true := by
  constructor
  · intro h
    obtain ⟨name, hname⟩ := List.length_eq_one_iff.mp h
    have hmem : ∀ other, other ∈ names ∧ p other = true ↔ other = name := by
      intro other
      rw [← List.mem_filter, hname, List.mem_singleton]
    exact ⟨name, (hmem name).mpr rfl, fun other hother => (hmem other).mp hother⟩
  · rintro ⟨name, hname, hunique⟩
    have hperm : (names.filter p).Perm [name] := by
      rw [List.perm_ext_iff_of_nodup (hnodup.filter p) (List.nodup_singleton name)]
      intro other
      rw [List.mem_filter, List.mem_singleton]
      refine ⟨hunique other, ?_⟩
      rintro rfl
      exact hname
    exact hperm.length_eq

/-- Which of some fields hold something tells whether exactly one of them does. -/
theorem count_eq_one_iff_givesOne {names : List String} (hnodup : names.Nodup) {held : List Bool}
    (hheld : List.Forall₂ (fun name b => b = true ↔ Gives es name) names held) :
    held.count true = 1 ↔ GivesOne es names := by
  classical
  have hmap : held = names.map fun name => decide (Gives es name) := by
    induction hheld with
    | nil => rfl
    | cons hb _ ih =>
      rw [List.map_cons, ← ih (List.nodup_cons.mp hnodup).2]
      simp [← hb]
  have hcount : held.count true = (names.filter fun name => decide (Gives es name)).length := by
    rw [hmap, List.count_eq_countP, List.countP_map, List.countP_eq_length_filter]
    simp [Function.comp_def]
  rw [hcount, length_filter_eq_one_iff hnodup]
  simp only [decide_eq_true_eq, GivesOne]

end Fields

end KeyLayers
