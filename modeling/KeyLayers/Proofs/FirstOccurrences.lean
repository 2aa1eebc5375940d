import Mathlib.Data.Finset.Card
import Mathlib.Data.List.Induction
import Mathlib.Data.List.Nodup

/-!
# First occurrences

Some lists are made by a scan that puts an element at the end unless it is there
already.  What the scan leaves can be said without it: the elements of the
scanned list, each behind those that first occur before it.  One step of the scan
keeps that, and no other list has it.

## Main definitions

* `FirstsOf` — the elements of a list in the order in which they first occur.

## Main results

* `FirstsOf.concat_of_mem`, `FirstsOf.concat_of_notMem` — one step of a scan.
* `firstsOf_eraseDups` — erasing repetitions leaves the first occurrences.
* `FirstsOf.eq_eraseDups` — there is only one list of first occurrences.
* `FirstsOf.length_eq` — it has as many elements as there are different ones.
* `eraseDups_map` — first occurrences are renamed along with the list.
-/

namespace KeyLayers

/-- The elements of `as` without repetitions, in the order in which they first occur there. -/
structure FirstsOf {α : Type} [BEq α] (as firsts : List α) : Prop where
  /-- They are the elements of the list. -/
  mem_iff : ∀ a, a ∈ firsts ↔ a ∈ as
  /-- Each first occurs after those before it, so none is repeated. -/
  ordered : firsts.Pairwise fun a b => as.idxOf a < as.idxOf b

variable {α : Type} [BEq α]

theorem firstsOf_nil : FirstsOf ([] : List α) [] := ⟨fun _ => Iff.rfl, List.Pairwise.nil⟩

theorem FirstsOf.nodup {as firsts : List α} (h : FirstsOf as firsts) : firsts.Nodup := by
  refine h.ordered.imp fun hlt heq => ?_
  rw [heq] at hlt
  exact Nat.lt_irrefl _ hlt

section Scan

variable [LawfulBEq α] {as firsts : List α} {a : α}

/-- What comes behind a list does not change where its elements first occur. -/
theorem FirstsOf.pairwise_append (h : FirstsOf as firsts) (later : List α) :
    firsts.Pairwise fun b c => (as ++ later).idxOf b < (as ++ later).idxOf c := by
  refine h.ordered.imp_of_mem fun hb hc hlt => ?_
  rwa [List.idxOf_append_of_mem ((h.mem_iff _).mp hb),
    List.idxOf_append_of_mem ((h.mem_iff _).mp hc)]

/-- An element that has occurred is passed over. -/
theorem FirstsOf.concat_of_mem (h : FirstsOf as firsts) (ha : a ∈ as) :
    FirstsOf (as ++ [a]) firsts where
  mem_iff := by
    intro b
    rw [h.mem_iff, List.mem_append, List.mem_singleton]
    exact ⟨Or.inl, fun hb => hb.elim id fun heq => heq ▸ ha⟩
  ordered := h.pairwise_append [a]

/-- A new element comes to the end. -/
theorem FirstsOf.concat_of_notMem (h : FirstsOf as firsts) (ha : a ∉ as) :
    FirstsOf (as ++ [a]) (firsts ++ [a]) where
  mem_iff := fun b => by rw [List.mem_append, List.mem_append, h.mem_iff]
  ordered := by
    rw [List.pairwise_append]
    refine ⟨h.pairwise_append [a], List.pairwise_singleton _ _, fun b hb c hc => ?_⟩
    obtain rfl := List.mem_singleton.mp hc
    have hmem : b ∈ as := (h.mem_iff b).mp hb
    have hbefore : as.idxOf b < as.length := List.idxOf_lt_length_of_mem hmem
    rw [List.idxOf_append_of_mem hmem, List.idxOf_append_of_notMem ha]
    omega

/-! ### Erasing repetitions -/

theorem eraseDups_concat_of_mem (h : a ∈ as) : (as ++ [a]).eraseDups = as.eraseDups := by
  have hremoved : [a].removeAll as = [] := by simp [List.removeAll, h]
  rw [List.eraseDups_append, hremoved, List.eraseDups_nil, List.append_nil]

theorem eraseDups_concat_of_notMem (h : a ∉ as) :
    (as ++ [a]).eraseDups = as.eraseDups ++ [a] := by
  have hkept : [a].removeAll as = [a] := by simp [List.removeAll, h]
  rw [List.eraseDups_append, hkept]
  rfl

/-- Erasing repetitions leaves the first occurrences. -/
theorem firstsOf_eraseDups (as : List α) : FirstsOf as as.eraseDups := by
  induction as using List.reverseRecOn with
  | nil => exact firstsOf_nil
  | append_singleton as a ih =>
    by_cases ha : a ∈ as
    · rw [eraseDups_concat_of_mem ha]
      exact ih.concat_of_mem ha
    · rw [eraseDups_concat_of_notMem ha]
      exact ih.concat_of_notMem ha

/-- There is only one list of first occurrences. -/
theorem FirstsOf.eq_eraseDups (h : FirstsOf as firsts) : firsts = as.eraseDups := by
  have herase := firstsOf_eraseDups as
  have hperm : firsts.Perm as.eraseDups := by
    rw [List.perm_ext_iff_of_nodup h.nodup herase.nodup]
    exact fun a => (h.mem_iff a).trans (herase.mem_iff a).symm
  exact hperm.eq_of_pairwise (fun _ _ _ _ hlt hgt => absurd hlt (Nat.lt_asymm hgt)) h.ordered
    herase.ordered

/-- Nothing is erased from a list without repetitions. -/
theorem eraseDups_of_nodup (h : as.Nodup) : as.eraseDups = as := by
  induction as with
  | nil => rfl
  | cons a as ih =>
    obtain ⟨hnot, hrest⟩ := List.nodup_cons.mp h
    have hkeep : (as.filter fun other => !other == a) = as := by
      rw [List.filter_eq_self]
      intro other hother
      have hne : other ≠ a := fun e => hnot (e ▸ hother)
      simp [hne]
    rw [List.eraseDups_cons, hkeep, ih hrest]

/-- First occurrences are renamed along with the list, if different elements get different names. -/
theorem eraseDups_map {β : Type} [BEq β] [LawfulBEq β] {f : α → β} (hf : Function.Injective f)
    (as : List α) : (as.map f).eraseDups = as.eraseDups.map f := by
  induction as using List.reverseRecOn with
  | nil => rfl
  | append_singleton as a ih =>
    rw [List.map_append, List.map_singleton]
    by_cases ha : a ∈ as
    · rw [eraseDups_concat_of_mem ha, eraseDups_concat_of_mem (List.mem_map_of_mem ha), ih]
    · have hfa : f a ∉ as.map f := fun hmem => ha ((List.mem_map_of_injective hf).mp hmem)
      rw [eraseDups_concat_of_notMem ha, eraseDups_concat_of_notMem hfa, ih, List.map_append,
        List.map_singleton]

end Scan

/-- There are as many first occurrences as there are different elements. -/
theorem FirstsOf.length_eq [DecidableEq α] {as firsts : List α} (h : FirstsOf as firsts) :
    firsts.length = as.toFinset.card := by
  have hsame : firsts.toFinset = as.toFinset := by
    ext a
    rw [List.mem_toFinset, List.mem_toFinset, h.mem_iff]
  rw [← hsame, List.toFinset_card_of_nodup h.nodup]

end KeyLayers
