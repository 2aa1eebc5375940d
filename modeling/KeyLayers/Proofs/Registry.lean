import KeyLayers.Proofs.FirstOccurrences
import KeyLayers.Proofs.OrderedMap
import KeyLayers.Registry

/-!
# The registry of layers

The registry takes a list of keys in which some may be repeated, and counts each
of them once.  It speaks of variables throughout, so what it says about keys
rests on different keys having different variables: how many variables there
are, and that the siblings of a key are all variables but one.

The root keys of layers never repeat.  So the registry of layers holds one
variable for each sublayer, in the order of the entries, and what it tells a
sublayer about its siblings is exactly the list of the other ones.

## Main definitions

* `Layers.sublayerKeys` — the root keys that open a sublayer, in order.
* `Layers.Variables` — the variables of the sublayers among entries.
* `Registry.Records` — what the registry of keys tells about them.

## Main results

* `sublayerVariable_injective` — different keys have different variables.
* `Registry.names_ofLayers` — the registry of layers drops no variable.
* `Registry.others_ofLayers` — the siblings of a sublayer.
* `Registry.names_ofKeys_concat` — what one more key adds.
* `Registry.records_keys_and_sublayers` — **each key is registered once.**
-/

namespace KeyLayers

/-- Different keys have different variables. -/
theorem sublayerVariable_injective : Function.Injective sublayerVariable := by
  intro j k h
  exact (String.append_right_inj _).mp h

/-! ### The root keys of sublayers -/

namespace Layers

/-- The root keys that open a sublayer, in order. -/
def sublayerKeys (l : Layers) : List KeyCode :=
  (l.entries.entries.filter fun e => e.2.isSublayer).map Prod.fst

theorem mem_sublayerKeys {l : Layers} {key : KeyCode} :
    key ∈ l.sublayerKeys ↔ ∃ commands, (key, Entry.sublayer commands) ∈ l.entries.entries := by
  simp only [sublayerKeys, List.mem_map, List.mem_filter]
  constructor
  · rintro ⟨⟨k, entry⟩, ⟨hmem, hsub⟩, rfl⟩
    cases entry with
    | leaf command => simp [Entry.isSublayer] at hsub
    | sublayer commands => exact ⟨commands, hmem⟩
  · rintro ⟨commands, hmem⟩
    exact ⟨(key, .sublayer commands), ⟨hmem, rfl⟩, rfl⟩

theorem nodup_sublayerKeys (l : Layers) : l.sublayerKeys.Nodup := by
  have hsub : (l.entries.entries.filter fun e => e.2.isSublayer).Sublist l.entries.entries :=
    List.filter_sublist
  exact l.entries.nodup.sublist (hsub.map Prod.fst)

theorem mem_sublayerKeys_of_getElem? {l : Layers} {i : ℕ} {key : KeyCode}
    {commands : OrderedMap Command} (h : l.entries.entries[i]? = some (key, .sublayer commands)) :
    key ∈ l.sublayerKeys :=
  mem_sublayerKeys.mpr ⟨commands, List.mem_of_getElem? h⟩

/-- A root key that fires a command opens no sublayer. -/
theorem notMem_sublayerKeys_of_leaf {l : Layers} {key : KeyCode} {command : Command}
    (h : (key, Entry.leaf command) ∈ l.entries.entries) : key ∉ l.sublayerKeys := by
  intro hkey
  obtain ⟨commands, hmem⟩ := mem_sublayerKeys.mp hkey
  -- entries with one key are equal, and a command is no sublayer
  have heq := List.inj_on_of_nodup_map l.entries.nodup h hmem rfl
  simp at heq

/-- The variables of the sublayers among entries, in order. -/
inductive Variables : Entries Entry → List String → Prop
  /-- Without entries there are none. -/
  | nil : Variables [] []
  /-- A command has no variable. -/
  | leaf {key : KeyCode} {command : Command} {es : Entries Entry} {names : List String}
      (rest : Variables es names) : Variables ((key, .leaf command) :: es) names
  /-- A sublayer has one. -/
  | sublayer {key : KeyCode} {commands : OrderedMap Command} {es : Entries Entry}
      {names : List String} (rest : Variables es names) :
      Variables ((key, .sublayer commands) :: es) (sublayerVariable key :: names)

theorem variables_filter (es : Entries Entry) :
    Variables es (((es.filter fun e => e.2.isSublayer).map Prod.fst).map sublayerVariable) := by
  induction es with
  | nil => exact .nil
  | cons e es ih =>
    obtain ⟨key, entry⟩ := e
    cases entry with
    | leaf command => exact .leaf ih
    | sublayer commands => exact .sublayer ih

end Layers

/-! ### Names and siblings -/

namespace Registry

/-- The registry of layers has one variable for each sublayer, in order, and none for a command. -/
theorem names_ofLayers (l : Layers) :
    (ofLayers l).names = l.sublayerKeys.map sublayerVariable :=
  eraseDups_of_nodup (l.nodup_sublayerKeys.map sublayerVariable_injective)

/-- The siblings of a sublayer are all sublayers but itself, in order. -/
theorem others_ofLayers (l : Layers) (key : KeyCode) :
    (ofLayers l).others key = (l.sublayerKeys.filter (· ≠ key)).map sublayerVariable := by
  rw [others, names_ofLayers, List.filter_map]
  congr 1
  refine List.filter_congr fun j _ => ?_
  simp [sublayerVariable_injective.eq_iff]

/-! ### Registering keys -/

theorem contains_iff {r : Registry} {name : String} : r.contains name ↔ name ∈ r.names :=
  List.contains_iff_mem

/-- One more key adds its variable at the end, unless that is there already. -/
theorem names_ofKeys_concat (keys : List KeyCode) (key : KeyCode) :
    (ofKeys (keys ++ [key])).names =
      if (ofKeys keys).contains (sublayerVariable key) then (ofKeys keys).names
      else (ofKeys keys).names ++ [sublayerVariable key] := by
  have hcontains : (ofKeys keys).contains (sublayerVariable key) ↔
      sublayerVariable key ∈ keys.map sublayerVariable :=
    contains_iff.trans List.mem_eraseDups
  simp only [hcontains]
  unfold ofKeys
  rw [List.map_append, List.map_singleton]
  split
  · next h => exact eraseDups_concat_of_mem h
  · next h => exact eraseDups_concat_of_notMem h

/-- The registry holds the variables of the different keys, as they first occur. -/
theorem names_ofKeys (keys : List KeyCode) :
    (ofKeys keys).names = keys.eraseDups.map sublayerVariable :=
  eraseDups_map sublayerVariable_injective keys

/-- Where no variable is repeated, the siblings of a key are left when its own is erased. -/
theorem others_eq_erase {r : Registry} (h : r.names.Nodup) (key : KeyCode) :
    r.others key = r.names.erase (sublayerVariable key) := by
  rw [h.erase_eq_filter, others]
  refine List.filter_congr fun name _ => ?_
  simp [bne, Bool.beq_eq_decide_eq]

/-- What a registry tells about keys of which some may be repeated. -/
structure Records (r : Registry) (keys : List KeyCode) : Prop where
  /-- No variable is repeated. -/
  nodup : r.names.Nodup
  /-- The variables come in the order in which those of the keys first occur. -/
  firsts : FirstsOf (keys.map sublayerVariable) r.names
  /-- A name is contained if it is that of a key's variable. -/
  contains_iff : ∀ name, r.contains name ↔ ∃ key ∈ keys, sublayerVariable key = name
  /-- There are as many variables as different keys. -/
  size_eq : r.size = keys.toFinset.card
  /-- The siblings of one of the keys are the variables before and after its own. -/
  others_of_mem : ∀ key ∈ keys, ∃ before after,
    r.names = before ++ sublayerVariable key :: after ∧ r.others key = before ++ after
  /-- So there is one variable more than siblings. -/
  length_others : ∀ key ∈ keys, (r.others key).length + 1 = r.size
  /-- To any other key all the variables are siblings. -/
  others_of_notMem : ∀ key, key ∉ keys → r.others key = r.names

theorem records_ofKeys (keys : List KeyCode) : (ofKeys keys).Records keys := by
  have hfirsts : FirstsOf (keys.map sublayerVariable) (ofKeys keys).names := firstsOf_eraseDups _
  have hmem : ∀ key, sublayerVariable key ∈ (ofKeys keys).names ↔ key ∈ keys := fun key =>
    (hfirsts.mem_iff _).trans (List.mem_map_of_injective sublayerVariable_injective)
  have herase := others_eq_erase hfirsts.nodup
  refine ⟨hfirsts.nodup, hfirsts, fun name => ?_, ?_, fun key hkey => ?_, fun key hkey => ?_,
    fun key hkey => ?_⟩
  · rw [contains_iff, hfirsts.mem_iff, List.mem_map]
  · -- the names are counted by the keys that they come from
    rw [size, names_ofKeys, List.length_map]
    exact (firstsOf_eraseDups keys).length_eq
  · obtain ⟨before, after, -, hnames, hrest⟩ := List.exists_erase_eq ((hmem key).mpr hkey)
    exact ⟨before, after, hnames, (herase key).trans hrest⟩
  · rw [herase, List.length_erase_add_one ((hmem key).mpr hkey)]
    rfl
  · rw [herase, List.erase_of_not_mem fun h => hkey ((hmem key).mp h)]

/-- **Each key is registered once.**  The registry of keys is made by going through them, and each
adds its variable at the end unless that is there already.  It records the keys; and the registry of
layers has one variable for each sublayer, in the order of the entries, and none for a command. -/
theorem records_keys_and_sublayers :
    (∀ keys, (ofKeys keys).Records keys) ∧
    (∀ keys key, (ofKeys (keys ++ [key])).names =
      if (ofKeys keys).contains (sublayerVariable key) then (ofKeys keys).names
      else (ofKeys keys).names ++ [sublayerVariable key]) ∧
    ∀ l : Layers, Layers.Variables l.entries.entries (ofLayers l).names ∧
      ∀ key command, (key, Entry.leaf command) ∈ l.entries.entries →
        (ofLayers l).contains (sublayerVariable key) = false := by
  refine ⟨records_ofKeys, names_ofKeys_concat, fun l => ⟨?_, fun key command hleaf => ?_⟩⟩
  · rw [names_ofLayers]
    exact Layers.variables_filter l.entries.entries
  · rw [Bool.eq_false_iff, Ne, contains_iff, names_ofLayers,
      List.mem_map_of_injective sublayerVariable_injective]
    exact Layers.notMem_sublayerKeys_of_leaf hleaf

/-- The key `m` comes twice, `x` not at all, and `f6` fires a command. -/
theorem records_keys_and_sublayers_musicTwice :
    (ofKeys ["m", "f", "m"]).size = 2 ∧
    ((ofKeys ["m", "f", "m"]).others "m").length + 1 = (ofKeys ["m", "f", "m"]).size ∧
    (ofKeys ["m", "f", "m"]).others "x" = (ofKeys ["m", "f", "m"]).names ∧
    (ofLayers ⟨.ofList [("f6", .leaf ⟨[], none⟩), ("m", .sublayer .empty)]⟩).contains
      (sublayerVariable "f6") = false := by
  have hrecords := records_keys_and_sublayers.1 ["m", "f", "m"]
  exact ⟨hrecords.size_eq, hrecords.length_others "m" (by decide),
    hrecords.others_of_notMem "x" (by decide),
    (records_keys_and_sublayers.2.2 _).2 "f6" ⟨[], none⟩ (by decide)⟩

end Registry

end KeyLayers
