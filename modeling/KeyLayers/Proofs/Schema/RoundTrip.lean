import KeyLayers.Proofs.OrderedMap
import KeyLayers.Action

/-!
# What is written can be read back

A record is written as a mapping of its fields, and its schema reads the mapping
field by field.  The two agree if every field is read by a decoder that gives
back what was written there.  The wire form needs one more thought: it drops the
fields that hold nothing, so a dropped field has to come back as nothing, and it
does so only where nothing is also what a missing field stands for.

What a decoder may use of a written record is therefore not the list of its
entries but, for each field, what stands there, `FieldHolds`.

## Main definitions

* `Decoder.Restores` — a decoder gives back what has been written.
* `FieldHolds` — what stands at a field, which is missing only if it holds nothing.
* `IsWritten` — the entries that a record with given fields may be written as.

## Main results

* `restores_listOf`, `restores_mappingOf`, … — composed values.
* `Restores.required`, `Restores.defaulted`, `Restores.nullable` — single fields.
* `record_restored`, `tagged_restored` — **records and members of unions.**
-/

namespace KeyLayers

open Decoder

variable {α β : Type}

namespace Verdict

@[simp] theorem map_accepted (f : α → β) (a : α) :
    (accepted a).map f = .accepted (f a) := rfl

@[simp] theorem apply_accepted (f : α → β) (a : α) :
    (accepted f).apply (.accepted a) = .accepted (f a) := rfl

@[simp] theorem below_accepted (s : Step) (a : α) : (accepted a).below s = .accepted a := rfl

end Verdict

/-! ### Values -/

/-- `d.Restores write` says that `d` reads whatever `write` has written as what it
was before, and that `write` never writes a null. -/
structure Decoder.Restores (d : Decoder α) (write : α → Value) : Prop where
  decode : ∀ a, d (write a) = .accepted a
  isNull : ∀ a, (write a).isNull = false

theorem restores_text : text.Restores .text := ⟨fun _ => rfl, fun _ => rfl⟩

theorem restores_boolean : boolean.Restores .bool := ⟨fun _ => rfl, fun _ => rfl⟩

theorem restores_literal (s shown : String) : (literal s shown).Restores fun _ => .text s :=
  ⟨fun _ => if_pos rfl, fun _ => rfl⟩

/-- A choice is restored if the names tell its members apart. -/
theorem restores_choice {members : List α} {name : α → String} (hmem : ∀ a, a ∈ members)
    (hname : ∀ a b, name a = name b → a = b) :
    (choice members name).Restores fun a => .text (name a) where
  decode := by
    intro a
    unfold choice
    cases hfind : members.find? fun m => name m = name a with
    | none => simpa using List.find?_eq_none.mp hfind a (hmem a)
    | some b =>
      have hb : name b = name a := by
        simpa using List.find?_some (p := fun m => decide (name m = name a)) hfind
      simp [hfind, hname b a hb]
  isNull _ := rfl

theorem Modifier.restores : Modifier.decoder.Restores Modifier.toValue :=
  restores_choice Modifier.mem_all fun _ _ => Modifier.name_injective

section Composed

variable {d : Decoder α} {write : α → Value}

theorem items_map (h : d.Restores write) (as : List α) (i : ℕ) :
    items d i (as.map write) = .accepted as := by
  induction as generalizing i with
  | nil => rfl
  | cons a as ih => simp [items, h.decode, ih]

theorem restores_listOf (h : d.Restores write) :
    (listOf d).Restores fun as => .list (as.map write) :=
  ⟨fun as => items_map h as 0, fun _ => rfl⟩

theorem restores_tupleOf (h : d.Restores write) :
    (tupleOf d).Restores fun as => .list (as.map write) :=
  ⟨fun as => items_map h as 0, fun _ => rfl⟩

theorem values_map (h : d.Restores write) (es : Entries α) :
    values d (es.map fun e => (e.1, write e.2)) = .accepted es := by
  induction es with
  | nil => rfl
  | cons e es ih => simp [values, h.decode, ih]

theorem restores_mappingOf (h : d.Restores write) :
    (mappingOf d).Restores fun m => .map (m.map write).entries where
  decode m := by
    -- the entries of a map have distinct keys, so writing them one by one gives it again
    simp [mappingOf, values_map h, OrderedMap.ofList_entries]
  isNull _ := rfl

theorem nullable_ofOption (h : d.Restores write) (o : Option α) :
    nullable d (.ofOption write o) = .accepted o := by
  cases o with
  | none => rfl
  | some a =>
    -- what has been written is no null, so it is not taken for nothing
    have hnull := h.isNull a
    have hdecode := h.decode a
    rw [Value.ofOption_some]
    cases hwrite : write a with
    | null => simp [hwrite] at hnull
    | _ => rw [hwrite] at hdecode; simp [nullable, hdecode]

end Composed

/-! ### Fields -/

/-- `FieldHolds es name v` says that `v` stands at the field `name` of a record with
the entries `es`.  A field without an entry holds nothing. -/
inductive FieldHolds (es : Entries Value) (name : String) : Value → Prop
  | present {v : Value} (find : Entries.find? name es = some v) : FieldHolds es name v
  | absent (find : Entries.find? name es = none) : FieldHolds es name .null

namespace Decoder.Restores

variable {es : Entries Value} {name : String} {d : Decoder α} {write : α → Value} {a : α}

/-- A field that holds something has an entry. -/
theorem find? (hd : d.Restores write) (h : FieldHolds es name (write a)) :
    Entries.find? name es = some (write a) := by
  have hnull := hd.isNull a
  generalize write a = v at h hnull
  cases h with
  | present hfind => exact hfind
  | absent hfind => simp at hnull

theorem required (hd : d.Restores write) (h : FieldHolds es name (write a)) :
    Decoder.required name d es = .accepted a := by
  simp [Decoder.required, hd.find? h, hd.decode]

theorem defaulted (hd : d.Restores write) (h : FieldHolds es name (write a)) {default : α} :
    Decoder.defaulted name default d es = .accepted a := by
  simp [Decoder.defaulted, hd.find? h, hd.decode]

/-- A field that may hold nothing comes back also where its entry has been dropped. -/
theorem nullable (hd : d.Restores write) {o : Option α}
    (h : FieldHolds es name (.ofOption write o)) :
    Decoder.defaulted name none (Decoder.nullable d) es = .accepted o := by
  have hdecode := nullable_ofOption hd o
  unfold Decoder.defaulted
  cases o with
  | some a =>
    rw [Value.ofOption_some] at h hdecode
    simp [hd.find? h, hdecode]
  | none =>
    rw [Value.ofOption_none] at h hdecode
    cases h with
    | present hfind => simp [hfind, hdecode]
    | absent hfind => simp [hfind]

end Decoder.Restores

theorem FieldHolds.kind {es : Entries Value} {tag : String}
    (h : FieldHolds es "kind" (.text tag)) : Decoder.kind tag es = .accepted () :=
  (restores_literal tag _).defaulted (a := ()) h

/-! ### Records -/

/-- The entries of a written record. -/
def Form.fields (f : Form) (fields : Entries Value) : Entries Value :=
  match f with
  | .full => fields
  | .wire => fields.filter fun e => !e.2.isNull

theorem Form.record_eq (f : Form) (fields : Entries Value) :
    f.record fields = .map (f.fields fields) := by
  cases f <;> rfl

theorem isNull_eq_true_iff {v : Value} : v.isNull = true ↔ v = .null := by
  cases v <;> simp [Value.isNull]

/-- Dropping what holds nothing leaves every field with what it holds. -/
theorem fieldHolds_filter {fields : Entries Value} (hkeys : (Entries.keys fields).Nodup)
    {name : String} {v : Value} (h : Entries.find? name fields = some v) :
    FieldHolds (fields.filter fun e => !e.2.isNull) name v := by
  induction fields with
  | nil => simp at h
  | cons e fields ih =>
    obtain ⟨key, w⟩ := e
    obtain ⟨hnew, hrest⟩ := List.nodup_cons.mp hkeys
    rw [Entries.find?_cons] at h
    by_cases hw : w.isNull = true
    · rw [List.filter_cons_of_neg (by simp [hw])]
      by_cases hkey : key = name
      · -- the field itself is dropped, and no later entry has its name
        obtain rfl : w = v := by simpa [hkey] using h
        obtain rfl := isNull_eq_true_iff.mp hw
        refine .absent (Entries.find?_eq_none_iff.mpr fun hmem => hnew ?_)
        subst hkey
        exact ((List.filter_sublist (l := fields)).map Prod.fst).subset hmem
      · exact ih hrest (by simpa [hkey] using h)
    · rw [List.filter_cons_of_pos (by simpa using hw)]
      by_cases hkey : key = name
      · exact .present (by rw [Entries.find?_cons]; simpa [hkey] using h)
      · cases ih hrest (by simpa [hkey] using h) with
        | present hfind => exact .present (by rw [Entries.find?_cons, if_neg hkey, hfind])
        | absent hfind => exact .absent (by rw [Entries.find?_cons, if_neg hkey, hfind])

/-- `IsWritten fields es` says that a record with the given fields may have been
written as `es`: every field holds what it should, and there is no other field. -/
structure IsWritten (fields es : Entries Value) : Prop where
  holds : ∀ name v, Entries.find? name fields = some v → FieldHolds es name v
  other : ∀ name, Entries.find? name fields = none → Entries.find? name es = none

theorem Form.isWritten (f : Form) {fields : Entries Value}
    (hkeys : (Entries.keys fields).Nodup) : IsWritten fields (f.fields fields) := by
  cases f with
  | full => exact ⟨fun _ _ h => .present h, fun _ h => h⟩
  | wire =>
    refine ⟨fun _ _ h => fieldHolds_filter hkeys h, fun name h => ?_⟩
    rw [Entries.find?_eq_none_iff] at h ⊢
    exact fun hmem => h (((List.filter_sublist (l := fields)).map Prod.fst).subset hmem)

variable {fields : Entries Value} {a : α}

/-- **A record is restored if its fields are.**  The reader may use of the entries
only what stands at each field. -/
theorem record_restored {f : Form} {d : Decoder α} (hkeys : (Entries.keys fields).Nodup)
    (h : ∀ es, IsWritten fields es → d (.map es) = .accepted a) :
    d (f.record fields) = .accepted a := by
  rw [Form.record_eq]
  exact h _ (f.isWritten hkeys)

/-- A written member of a union is read by the decoder that its tag selects. -/
theorem tagged_restored {f : Form} {field tag : String} {members : List (String × Decoder α)}
    {d : Decoder α} (hkeys : (Entries.keys fields).Nodup)
    (htag : Entries.find? field fields = some (.text tag)) (hd : members.lookup tag = some d)
    (h : d (f.record fields) = .accepted a) :
    tagged field members (f.record fields) = .accepted a := by
  have hfind : Entries.find? field (f.fields fields) = some (.text tag) :=
    restores_text.find? ((f.isWritten hkeys).holds _ _ htag)
  rw [Form.record_eq] at h ⊢
  simp [tagged, hfind, hd, h]

theorem isNull_record (f : Form) (fields : Entries Value) : (f.record fields).isNull = false := by
  rw [Form.record_eq]
  rfl

end KeyLayers
