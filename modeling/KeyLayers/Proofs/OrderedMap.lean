import Mathlib.Data.List.Nodup
import KeyLayers.OrderedMap
import KeyLayers.Proofs.FirstOccurrences

/-!
# Writing into insertion-ordered maps

What writing does to the list of entries, beside what it does to single keys: a
new key comes at the end, and entries with distinct keys, written one after the
other, come out as they went in.  Of pairs that share a key the first gives the
place and the last the value.

## Main definitions

* `Entries.LastValue` — the value of the last pair with a key.
* `OrderedMap.Collects` — what a map has from the pairs that were written into it.

## Main results

* `Entries.insert_of_notMem` — a new key is added at the end.
* `Entries.insertAll_eq_append` — distinct new keys are added in their order.
* `Entries.forall_mem_insertAll` — keys and values come from somewhere.
* `Entries.index_unique` — a key stands at one place.
* `Entries.exists_place` — the place of a key, present or not, when it is written or erased.
* `OrderedMap.Collects.insert`, `OrderedMap.collects_ofList` — what one more pair does, and many.
-/

namespace KeyLayers

namespace Entries

variable {α : Type}

theorem insert_of_notMem {k : String} {es : Entries α} (h : k ∉ keys es) (a : α) :
    insert k a es = es ++ [(k, a)] := by
  induction es with
  | nil => rfl
  | cons e es ih =>
    obtain ⟨j, b⟩ := e
    rw [keys_cons, List.mem_cons, not_or] at h
    have hne : ¬ j = k := fun e => h.1 e.symm
    rw [insert, if_neg hne, ih h.2, List.cons_append]

theorem insertAll_eq_append {es l : Entries α} (h : (keys (es ++ l)).Nodup) :
    insertAll es l = es ++ l := by
  induction l generalizing es with
  | nil => simp [insertAll]
  | cons e l ih =>
    -- the first entry goes to the end of `es`, and the rest is written after it
    have hsplit : es ++ e :: l = (es ++ [(e.1, e.2)]) ++ l := by simp
    have hnew : e.1 ∉ keys es := by
      intro hmem
      rw [keys, List.map_append, List.nodup_append] at h
      exact h.2.2 e.1 hmem e.1 (by simp) rfl
    have hstep : insertAll es (e :: l) = insertAll (insert e.1 e.2 es) l := rfl
    rw [hstep, insert_of_notMem hnew, ih (hsplit ▸ h), ← hsplit]

/-- A property of keys and one of values that all written pairs have is kept. -/
theorem forall_mem_insert {P : String → Prop} {Q : α → Prop} {k : String} {a : α}
    {es : Entries α} (hes : ∀ e ∈ es, P e.1 ∧ Q e.2) (hk : P k) (ha : Q a) :
    ∀ e ∈ insert k a es, P e.1 ∧ Q e.2 := by
  induction es with
  | nil =>
    intro e he
    obtain rfl : e = (k, a) := List.mem_singleton.mp he
    exact ⟨hk, ha⟩
  | cons d es ih =>
    obtain ⟨j, b⟩ := d
    have hd := hes (j, b) List.mem_cons_self
    have hrest : ∀ e ∈ es, P e.1 ∧ Q e.2 := fun e he => hes e (List.mem_cons_of_mem _ he)
    intro e he
    unfold insert at he
    split at he
    · rcases List.mem_cons.mp he with rfl | he
      · exact ⟨hd.1, ha⟩
      · exact hrest e he
    · rcases List.mem_cons.mp he with rfl | he
      · exact hd
      · exact ih hrest e he

theorem forall_mem_insertAll {P : String → Prop} {Q : α → Prop} {es l : Entries α}
    (hes : ∀ e ∈ es, P e.1 ∧ Q e.2) (hl : ∀ e ∈ l, P e.1 ∧ Q e.2) :
    ∀ e ∈ insertAll es l, P e.1 ∧ Q e.2 := by
  induction l generalizing es with
  | nil => exact hes
  | cons d l ih =>
    obtain ⟨hk, ha⟩ := hl d List.mem_cons_self
    exact ih (forall_mem_insert hes hk ha) fun e he => hl e (List.mem_cons_of_mem _ he)

/-- A list without repeated keys holds each key at one place. -/
theorem index_unique {es : Entries α} (hes : (keys es).Nodup) {i j : ℕ} {k : String} {a b : α}
    (hi : es[i]? = some (k, a)) (hj : es[j]? = some (k, b)) : i = j := by
  have hki : (keys es)[i]? = some k := by simp [keys, hi]
  have hkj : (keys es)[j]? = some k := by simp [keys, hj]
  have hlen : i < (keys es).length := (List.getElem?_eq_some_iff.mp hki).1
  exact (List.getElem?_inj hlen hes).mp (hki.trans hkj.symm)

/-- What is found under a key is one of the entries. -/
theorem mem_of_find? {k : String} {a : α} {es : Entries α} (h : find? k es = some a) :
    (k, a) ∈ es := by
  induction es with
  | nil => simp at h
  | cons e es ih =>
    obtain ⟨j, b⟩ := e
    rw [find?_cons] at h
    split at h
    · rename_i hj
      obtain rfl := Option.some.inj h
      exact hj ▸ List.mem_cons_self
    · exact List.mem_cons_of_mem _ (ih h)

/-- In a list without repeated keys every entry is found under its key. -/
theorem find?_of_mem {es : Entries α} (hes : (keys es).Nodup) {k : String} {a : α}
    (h : (k, a) ∈ es) : find? k es = some a := by
  have hfound : (find? k es).isSome := find?_isSome_iff.mpr (List.mem_map_of_mem h)
  obtain ⟨b, hb⟩ := Option.isSome_iff_exists.mp hfound
  have hsame : (k, b) = (k, a) := List.inj_on_of_nodup_map hes (mem_of_find? hb) h rfl
  rw [hb, (Prod.mk.inj hsame).2]

theorem erase_of_notMem {k : String} {es : Entries α} (h : k ∉ keys es) : erase k es = es := by
  rw [erase, List.filter_eq_self]
  intro e he
  have hne : e.1 ≠ k := fun hek => h (hek ▸ List.mem_map_of_mem he)
  simp [hne]

theorem erase_erase (k : String) (es : Entries α) : erase k (erase k es) = erase k es := by
  rw [erase, erase, List.filter_filter]
  simp only [Bool.and_self]

theorem erase_insert (k : String) (a : α) (es : Entries α) :
    erase k (insert k a es) = erase k es := by
  induction es with
  | nil => simp [insert, erase]
  | cons e es ih =>
    obtain ⟨j, b⟩ := e
    unfold insert
    by_cases h : j = k
    · simp [erase, h]
    · rw [if_neg h, erase, erase, List.filter_cons_of_pos (by simpa using h),
        List.filter_cons_of_pos (by simpa using h)]
      exact congrArg _ ih

/-- **The place of a key.**  Whatever is written under a key comes between the same entries, and
these are left when the key is erased. -/
theorem exists_place {es : Entries α} (hes : (keys es).Nodup) (k : String) :
    ∃ before after, es = before ++ ((find? k es).map fun a => (k, a)).toList ++ after ∧
      (∀ a, insert k a es = before ++ (k, a) :: after) ∧ erase k es = before ++ after := by
  induction es with
  | nil => exact ⟨[], [], rfl, fun _ => rfl, rfl⟩
  | cons e es ih =>
    obtain ⟨j, b⟩ := e
    obtain ⟨hnew, hrest⟩ := List.nodup_cons.mp hes
    by_cases h : j = k
    · subst h
      refine ⟨[], es, ?_, fun a => ?_, ?_⟩
      · simp [find?_cons]
      · simp [insert]
      · have herase : erase j ((j, b) :: es) = erase j es := by simp [erase]
        rw [herase, erase_of_notMem hnew, List.nil_append]
    · obtain ⟨before, after, heq, hinsert, herase⟩ := ih hrest
      refine ⟨(j, b) :: before, after, ?_, fun a => ?_, ?_⟩
      · rw [find?_cons, if_neg h, List.cons_append, List.cons_append, ← heq]
      · rw [insert, if_neg h, hinsert, List.cons_append]
      · have hcons : erase k ((j, b) :: es) = (j, b) :: erase k es := by simp [erase, h]
        rw [hcons, herase, List.cons_append]

/-- The last pair with the key `k` has the value `v`. -/
def LastValue (l : Entries α) (k : String) (v : α) : Prop :=
  ∃ before after, l = before ++ (k, v) :: after ∧ k ∉ keys after

theorem not_lastValue_nil {k : String} {v : α} : ¬ LastValue [] k v := by
  rintro ⟨before, after, h, -⟩
  simp at h

/-- A pair at the end is the last one with its key, and hides no other. -/
theorem lastValue_concat_iff {l : Entries α} {j k : String} {a v : α} :
    LastValue (l ++ [(j, a)]) k v ↔ if j = k then a = v else LastValue l k v := by
  constructor
  · rintro ⟨before, after, h, hafter⟩
    rcases List.eq_nil_or_concat' after with rfl | ⟨after, e, rfl⟩
    · obtain ⟨-, hlast⟩ := List.append_inj' h rfl
      obtain ⟨rfl, rfl⟩ := Prod.mk.inj (List.singleton_inj.mp hlast)
      rw [if_pos rfl]
    · -- the pair at the end is one of those behind the last pair with `k`
      have hend : l ++ [(j, a)] = (before ++ (k, v) :: after) ++ [e] := by simpa using h
      obtain ⟨rfl, hlast⟩ := List.append_inj' hend rfl
      obtain rfl := List.singleton_inj.mp hlast
      rw [keys, List.map_append, List.mem_append, not_or] at hafter
      have hne : ¬ j = k := fun heq => hafter.2 (by simp [heq])
      rw [if_neg hne]
      exact ⟨before, after, rfl, hafter.1⟩
  · intro h
    split at h
    · next heq =>
      subst heq h
      exact ⟨l, [], rfl, List.not_mem_nil⟩
    · next hne =>
      obtain ⟨before, after, rfl, hafter⟩ := h
      have hkey : k ∉ keys (after ++ [(j, a)]) := by
        rw [keys, List.map_append, List.mem_append, not_or]
        exact ⟨hafter, by simpa using fun heq : k = j => hne heq.symm⟩
      exact ⟨before, after ++ [(j, a)], by simp, hkey⟩

end Entries

namespace OrderedMap

variable {α : Type}

/-- Entries with distinct keys are the entries of the map that they give. -/
theorem entries_ofList {l : Entries α} (h : (Entries.keys l).Nodup) : (ofList l).entries = l := by
  have hnil : (Entries.keys ([] ++ l)).Nodup := h
  exact Entries.insertAll_eq_append hnil

/-- A map is what writing its own entries gives. -/
theorem ofList_entries (m : OrderedMap α) : ofList m.entries = m :=
  OrderedMap.ext (entries_ofList m.nodup)

/-- The map has its keys and values from pairs whose keys may be repeated. -/
structure Collects (m : OrderedMap α) (l : Entries α) : Prop where
  /-- A key has the place where it first comes. -/
  places : FirstsOf (Entries.keys l) m.keys
  /-- It has the value with which it last comes. -/
  values : ∀ k v, m.find? k = some v ↔ Entries.LastValue l k v

theorem collects_empty : (empty : OrderedMap α).Collects [] where
  places := firstsOf_nil
  values := fun k v => by simp [find?, Entries.not_lastValue_nil]

/-- One more pair is written. -/
theorem Collects.insert {m : OrderedMap α} {l : Entries α} (h : m.Collects l) (k : String) (a : α) :
    (m.insert k a).Collects (l ++ [(k, a)]) where
  places := by
    have hkeys : Entries.keys (l ++ [(k, a)]) = Entries.keys l ++ [k] := List.map_append
    rw [hkeys, keys_insert]
    split
    · next hk => exact h.places.concat_of_mem ((h.places.mem_iff k).mp hk)
    · next hk => exact h.places.concat_of_notMem fun hmem => hk ((h.places.mem_iff k).mpr hmem)
  values := by
    intro j v
    rw [find?_insert, Entries.lastValue_concat_iff]
    split
    · exact Option.some_inj
    · exact h.values j v

/-- **Of two pairs with one key the first gives the place and the last the value.** -/
theorem collects_ofList (l : Entries α) : (ofList l).Collects l := by
  induction l using List.reverseRecOn with
  | nil => exact collects_empty
  | append_singleton l e ih =>
    have hstep : ofList (l ++ [e]) = (ofList l).insert e.1 e.2 :=
      OrderedMap.ext (List.foldl_append)
    rw [hstep]
    exact ih.insert e.1 e.2

end OrderedMap

end KeyLayers
