/-!
# Insertion-ordered maps

A finite map from strings that keeps its entries in the order in which their keys first came.
Writing a key that is present changes its value and leaves its place; a key that is erased and
written again goes to the end.

## Main definitions

* `Entries` — lists of key-value pairs, with the operations on them.
* `OrderedMap` — entry lists without a repeated key.
* `OrderedMap.insert`, `OrderedMap.erase`, `OrderedMap.find?` — writing, erasing, looking up.

## Main results

* `Entries.keys_insert` — writing adds at most one key, at the end.
* `Entries.find?_insert` — what is read after writing.
-/

namespace KeyLayers

/-- Key-value pairs in order. -/
abbrev Entries (α : Type) := List (String × α)

namespace Entries

variable {α β : Type}

/-- The keys, in order. -/
def keys (es : Entries α) : List String := es.map Prod.fst

/-- The value of the first entry with key `k`. -/
def find? (k : String) : Entries α → Option α
  | [] => none
  | (j, a) :: es => if j = k then some a else find? k es

/-- The entries after writing `a` under `k`: in place if `k` is present, else at the end. -/
def insert (k : String) (a : α) : Entries α → Entries α
  | [] => [(k, a)]
  | (j, b) :: es => if j = k then (j, a) :: es else (j, b) :: insert k a es

/-- The entries whose key is not `k`. -/
def erase (k : String) (es : Entries α) : Entries α := es.filter fun e => e.1 != k

/-- The entries that result from writing each pair of `l` in turn after `es`. -/
def insertAll (es l : Entries α) : Entries α := l.foldl (fun acc e => insert e.1 e.2 acc) es

@[simp] theorem keys_nil : keys ([] : Entries α) = [] := rfl

@[simp] theorem keys_cons (e : String × α) (es : Entries α) :
    keys (e :: es) = e.1 :: keys es := rfl

@[simp] theorem find?_nil (k : String) : find? k ([] : Entries α) = none := rfl

theorem find?_cons (k j : String) (a : α) (es : Entries α) :
    find? k ((j, a) :: es) = if j = k then some a else find? k es := rfl

/-- A key is found exactly when it is among the keys. -/
theorem find?_isSome_iff {k : String} {es : Entries α} :
    (find? k es).isSome ↔ k ∈ keys es := by
  induction es with
  | nil => simp
  | cons e es ih =>
    obtain ⟨j, a⟩ := e
    rw [find?_cons]
    by_cases h : j = k
    · simp [h]
    · have h' : ¬ k = j := fun e => h e.symm
      simp [h, h', ih]

/-- A key is missed exactly when it is not among the keys. -/
theorem find?_eq_none_iff {k : String} {es : Entries α} :
    find? k es = none ↔ k ∉ keys es := by
  rw [← find?_isSome_iff]
  cases find? k es <;> simp

/-- Writing under a present key keeps the keys; under a new one it adds the key at the end. -/
theorem keys_insert (k : String) (a : α) (es : Entries α) :
    keys (insert k a es) = if k ∈ keys es then keys es else keys es ++ [k] := by
  induction es with
  | nil => simp [insert]
  | cons e es ih =>
    obtain ⟨j, b⟩ := e
    unfold insert
    by_cases h : j = k
    · simp [h]
    · have h' : ¬ k = j := fun e => h e.symm
      simp only [h, h', if_false, keys_cons, List.mem_cons, false_or, ih]
      split <;> simp

/-- After writing under `k`, `k` has the new value and every other key its old one. -/
theorem find?_insert (k j : String) (a : α) (es : Entries α) :
    find? j (insert k a es) = if k = j then some a else find? j es := by
  induction es with
  | nil => simp [insert, find?_cons]
  | cons e es ih =>
    obtain ⟨i, b⟩ := e
    unfold insert
    by_cases hik : i = k
    · subst hik
      by_cases hij : i = j <;> simp [find?_cons, hij]
    · simp only [hik, if_false, find?_cons, ih]
      by_cases hij : i = j
      · have hkj : ¬ k = j := fun e => hik (hij.trans e.symm)
        simp [hij, hkj]
      · simp [hij]

theorem nodup_keys_insert {es : Entries α} (h : (keys es).Nodup) (k : String) (a : α) :
    (keys (insert k a es)).Nodup := by
  rw [keys_insert]
  split
  · exact h
  · rename_i hk
    rw [List.nodup_append]
    refine ⟨h, by simp, ?_⟩
    intro x hx y hy hxy
    rw [List.mem_singleton] at hy
    exact hk (hy ▸ hxy ▸ hx)

theorem nodup_keys_insertAll {es : Entries α} (h : (keys es).Nodup) (l : Entries α) :
    (keys (insertAll es l)).Nodup := by
  induction l generalizing es with
  | nil => exact h
  | cons e l ih => exact ih (nodup_keys_insert h e.1 e.2)

theorem keys_erase (k : String) (es : Entries α) :
    keys (erase k es) = (keys es).filter (· != k) := by
  simp [keys, erase, List.filter_map, Function.comp_def]

theorem nodup_keys_erase {es : Entries α} (h : (keys es).Nodup) (k : String) :
    (keys (erase k es)).Nodup := by
  rw [keys_erase]
  exact h.filter _

end Entries

/-- A finite map from strings whose entries keep the order in which their keys first came. -/
@[ext] structure OrderedMap (α : Type) where
  /-- The entries, in order. -/
  entries : Entries α
  /-- No key occurs twice. -/
  nodup : (Entries.keys entries).Nodup

namespace OrderedMap

variable {α β : Type}

instance [DecidableEq α] : DecidableEq (OrderedMap α) := fun m n =>
  if h : m.entries = n.entries then .isTrue (OrderedMap.ext h)
  else .isFalse fun e => h (congrArg entries e)

instance [Repr α] : Repr (OrderedMap α) := ⟨fun m => reprPrec m.entries⟩

/-- The map without entries. -/
def empty : OrderedMap α := ⟨[], List.nodup_nil⟩

instance : Inhabited (OrderedMap α) := ⟨empty⟩

instance : EmptyCollection (OrderedMap α) := ⟨empty⟩

/-- The keys, in order. -/
def keys (m : OrderedMap α) : List String := Entries.keys m.entries

/-- The value under `k`, if there is one. -/
def find? (m : OrderedMap α) (k : String) : Option α := Entries.find? k m.entries

/-- Whether `k` is a key. -/
def contains (m : OrderedMap α) (k : String) : Bool := (m.find? k).isSome

/-- The map after writing `a` under `k`; a present key keeps its place. -/
def insert (m : OrderedMap α) (k : String) (a : α) : OrderedMap α :=
  ⟨Entries.insert k a m.entries, Entries.nodup_keys_insert m.nodup k a⟩

/-- The map without the key `k`. -/
def erase (m : OrderedMap α) (k : String) : OrderedMap α :=
  ⟨Entries.erase k m.entries, Entries.nodup_keys_erase m.nodup k⟩

/-- The map after writing the pairs of `l` in turn. -/
def insertAll (m : OrderedMap α) (l : Entries α) : OrderedMap α :=
  ⟨Entries.insertAll m.entries l, Entries.nodup_keys_insertAll m.nodup l⟩

/-- The map that results from writing the pairs in turn: of two pairs with one key, the first
gives the place and the last the value. -/
def ofList (l : Entries α) : OrderedMap α := empty.insertAll l

/-- The map with each value replaced by its image. -/
def map (f : α → β) (m : OrderedMap α) : OrderedMap β :=
  ⟨m.entries.map fun e => (e.1, f e.2), by
    have h := m.nodup
    simpa [Entries.keys, Function.comp_def] using h⟩

@[simp] theorem entries_empty : (empty : OrderedMap α).entries = [] := rfl

@[simp] theorem entries_insert (m : OrderedMap α) (k : String) (a : α) :
    (m.insert k a).entries = Entries.insert k a m.entries := rfl

@[simp] theorem entries_erase (m : OrderedMap α) (k : String) :
    (m.erase k).entries = Entries.erase k m.entries := rfl

@[simp] theorem entries_map (f : α → β) (m : OrderedMap α) :
    (m.map f).entries = m.entries.map fun e => (e.1, f e.2) := rfl

@[simp] theorem keys_map (f : α → β) (m : OrderedMap α) : (m.map f).keys = m.keys := by
  simp [keys, Entries.keys, Function.comp_def]

theorem keys_insert (m : OrderedMap α) (k : String) (a : α) :
    (m.insert k a).keys = if k ∈ m.keys then m.keys else m.keys ++ [k] :=
  Entries.keys_insert k a m.entries

theorem find?_insert (m : OrderedMap α) (k j : String) (a : α) :
    (m.insert k a).find? j = if k = j then some a else m.find? j :=
  Entries.find?_insert k j a m.entries

theorem contains_iff {m : OrderedMap α} {k : String} : m.contains k ↔ k ∈ m.keys :=
  Entries.find?_isSome_iff

end OrderedMap

end KeyLayers
