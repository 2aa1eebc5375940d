import KeyLayers.Proofs.OrderedMap
import KeyLayers.Translation

/-!
# Layouts merge no keys

A translation leaves every key alone that its table does not mention, so it can
take two keys to one place in two ways: its table may give one place twice, or
it may give the place of a key that has stayed there.  Neither happens if the
places of the table are its keys in another order, and this is how the known
layouts are made.

## Main results

* `Translation.apply_bijective` — a table that permutes its keys permutes all keys.
* `Layout.apply_bijective` — **the known layouts permute the keys.**
-/

namespace KeyLayers

namespace Translation

variable {t : Translation} {key place : String}

theorem apply_of_mem (h : (key, place) ∈ t.table.entries) : t.apply key = place := by
  have hfind : t.table.find? key = some place := Entries.find?_of_mem t.table.nodup h
  rw [apply, hfind, Option.getD_some]

theorem apply_of_notMem (h : key ∉ t.table.keys) : t.apply key = key := by
  have hfind : t.table.find? key = none := Entries.find?_eq_none_iff.mpr h
  rw [apply, hfind, Option.getD_none]

/-- A key that the table mentions goes to one of its places. -/
theorem exists_entry (h : key ∈ t.table.keys) :
    ∃ place, (key, place) ∈ t.table.entries ∧ t.apply key = place := by
  obtain ⟨⟨j, place⟩, hmem, rfl⟩ := List.mem_map.mp h
  exact ⟨place, hmem, apply_of_mem hmem⟩

/-- A table that permutes its keys permutes all keys. -/
theorem apply_bijective (h : (t.table.entries.map Prod.snd).Perm t.table.keys) :
    Function.Bijective t.apply := by
  constructor
  · intro j k hjk
    by_cases hj : j ∈ t.table.keys
    · obtain ⟨place, hplace, happly⟩ := exists_entry hj
      rw [happly] at hjk
      by_cases hk : k ∈ t.table.keys
      · obtain ⟨place', hplace', happly'⟩ := exists_entry hk
        rw [happly'] at hjk
        -- no place stands in the table twice
        have hnodup : (t.table.entries.map Prod.snd).Nodup := h.nodup_iff.mpr t.table.nodup
        exact congrArg Prod.fst (List.inj_on_of_nodup_map hnodup hplace hplace' hjk)
      · -- a place of the table is one of its keys, and `k` is none
        rw [apply_of_notMem hk] at hjk
        exact absurd (h.subset (List.mem_map_of_mem hplace)) (hjk ▸ hk)
    · rw [apply_of_notMem hj] at hjk
      by_cases hk : k ∈ t.table.keys
      · obtain ⟨place', hplace', happly'⟩ := exists_entry hk
        rw [happly'] at hjk
        exact absurd (h.subset (List.mem_map_of_mem hplace')) (hjk ▸ hj)
      · rwa [apply_of_notMem hk] at hjk
  · intro place
    by_cases hplace : place ∈ t.table.keys
    · obtain ⟨e, he, rfl⟩ := List.mem_map.mp (h.symm.subset hplace)
      exact ⟨e.1, apply_of_mem he⟩
    · exact ⟨place, apply_of_notMem hplace⟩

end Translation

/-- **The known layouts permute the keys.** -/
theorem Layout.apply_bijective (layout : Layout) :
    Function.Bijective (Translation.mk layout.table).apply := by
  refine Translation.apply_bijective ?_
  cases layout with
  | qwerty => exact .nil
  | colemak => exact (by decide : (colemakEntries.map Prod.snd).Perm (colemakEntries.map Prod.fst))

/-- A layout without further entries merges no keys. -/
theorem Translation.injective_of_ofLayout {name : String} {t : Translation}
    (h : Translation.ofLayout name .empty = .ok t) : Function.Injective t.apply := by
  unfold ofLayout at h
  cases hlayout : Layout.ofName? name with
  | none => simp [hlayout] at h
  | some layout =>
    rw [hlayout] at h
    obtain rfl := Except.ok.inj h
    exact layout.apply_bijective.injective

end KeyLayers
