import KeyLayers.Proofs.Rules
import KeyLayers.Session

/-!
# Edits are local

Every toggle has a condition for every other sublayer, so an edit at one root key
could reach the rules of all others.  It does so in one way only.  What the rules
of other entries know of a root key is whether it opens a sublayer and where it
stands among those that do; an edit that keeps both leaves them alone.  An edit
that makes a key open a sublayer gives one condition to each other toggle, at the
place of the key among the sublayers, and one that makes it open none takes that
condition away.  Reordering moves rules and conditions and does nothing else.

An edit writes or erases one key of a map, so all of them are seen alike: the
entries before and after the key's place stay, and only what stands there changes
(`Layers.exists_place`).

## Main definitions

* `Layers.put`, `Layers.remove` — the edits of layers.
* `Target.keyedRules`, `Target.rulesApart` — the rules with their entries, and those of other
  entries.
* `Target.SameButConditions` — two rules of one entry that differ in the conditions of toggles.
* `Target.Gains` — a root key comes to open a sublayer, as other entries see it.
* `Target.EditsAreLocal` — what each kind of edit does.
* `Session.run` — the steps of a session, one after the other.

## Main results

* `Target.rulesApart_congr`, `Target.gains_of_sublayerKeys` — what the rules of other entries
  depend on.
* `Target.rules_editsAreLocal` — **edits are local.**
* `Session.edit_local`, `Session.run_local` — so are the steps of a session, and its runs.
-/

namespace KeyLayers

open Host

/-! ### Editing layers -/

namespace Layers

/-- The layers with an entry written under a root key. -/
def put (l : Layers) (key : KeyCode) (entry : Entry) : Layers := ⟨l.entries.insert key entry⟩

/-- The layers without a root key. -/
def remove (l : Layers) (key : KeyCode) : Layers := ⟨l.entries.erase key⟩

/-- The root keys of entries that open a sublayer, in order. -/
def sublayerKeysOf (es : Entries Entry) : List KeyCode :=
  (es.filter fun e => e.2.isSublayer).map Prod.fst

theorem sublayerKeysOf_append (es es' : Entries Entry) :
    sublayerKeysOf (es ++ es') = sublayerKeysOf es ++ sublayerKeysOf es' := by
  rw [sublayerKeysOf, List.filter_append, List.map_append]
  rfl

theorem sublayerKeysOf_cons (key : KeyCode) (entry : Entry) (es : Entries Entry) :
    sublayerKeysOf ((key, entry) :: es) =
      (if entry.isSublayer then [key] else []) ++ sublayerKeysOf es := by
  cases entry with
  | leaf command => rfl
  | sublayer commands => rfl

theorem sublayerKeysOf_filter (p : KeyCode → Bool) (es : Entries Entry) :
    sublayerKeysOf (es.filter fun e => p e.1) = (sublayerKeysOf es).filter p := by
  rw [sublayerKeysOf, sublayerKeysOf, List.filter_map, List.filter_filter, List.filter_filter]
  simp only [Function.comp_def, Bool.and_comm]

/-- Sublayers have their keys from the entries. -/
theorem sublayerKeysOf_subset (es : Entries Entry) : sublayerKeysOf es ⊆ Entries.keys es :=
  List.map_subset _ (List.filter_subset_self es)

/-- **The place of a root key among the sublayers**, before and after an edit. -/
theorem exists_place (l : Layers) (key : KeyCode) : ∃ before after,
    l.sublayerKeys = before ++ (if key ∈ l.sublayerKeys then [key] else []) ++ after ∧
      (∀ entry, (l.put key entry).sublayerKeys =
        before ++ (if entry.isSublayer then [key] else []) ++ after) ∧
      (l.remove key).sublayerKeys = before ++ after := by
  obtain ⟨before, after, hentries, hput, hremove⟩ := Entries.exists_place l.entries.nodup key
  refine ⟨sublayerKeysOf before, sublayerKeysOf after, ?_, fun entry => ?_, ?_⟩
  · have hnotMem : key ∉ sublayerKeysOf (before ++ after) := by
      have herased : key ∉ Entries.keys (before ++ after) := by
        rw [← hremove, Entries.keys_erase]
        simp
      exact fun hmem => herased (sublayerKeysOf_subset _ hmem)
    rw [sublayerKeysOf_append, List.mem_append, not_or] at hnotMem
    -- only what stands at the place of the key can have it
    have hhere : ∀ here : Option Entry,
        sublayerKeysOf (here.map fun entry => (key, entry)).toList = [] ∨
          sublayerKeysOf (here.map fun entry => (key, entry)).toList = [key] := by
      rintro (_ | _ | _)
      · exact .inl rfl
      · exact .inl rfl
      · exact .inr rfl
    have hkeys : l.sublayerKeys = sublayerKeysOf l.entries.entries := rfl
    rw [hkeys, hentries, sublayerKeysOf_append, sublayerKeysOf_append]
    rcases hhere (Entries.find? key l.entries.entries) with h | h <;> rw [h] <;> simp [hnotMem]
  · have hkeys : (l.put key entry).sublayerKeys =
        sublayerKeysOf (Entries.insert key entry l.entries.entries) := rfl
    rw [hkeys, hput, sublayerKeysOf_append, sublayerKeysOf_cons, List.append_assoc]
  · have hkeys : (l.remove key).sublayerKeys =
        sublayerKeysOf (Entries.erase key l.entries.entries) := rfl
    rw [hkeys, hremove, sublayerKeysOf_append]

end Layers

namespace Target

variable {t : Target} {l l' : Layers} {key : KeyCode} {before after : List KeyCode}

/-! ### Rules of other entries -/

/-- The rules of layers, each with its entry. -/
def keyedRules (t : Target) (l : Layers) : List ((KeyCode × Entry) × Rule) :=
  l.entries.entries.zip (t.rules l)

/-- The rules of layers, each with its entry, but for the rule of `key`. -/
def rulesApart (t : Target) (l : Layers) (key : KeyCode) : List ((KeyCode × Entry) × Rule) :=
  (t.keyedRules l).filter fun e => e.1.1 != key

/-- The conditions that the sublayers of `keys` are closed, but for that of `own`. -/
def closedBut (own : KeyCode) (keys : List KeyCode) : List Condition :=
  (keys.filter (· ≠ own)).map fun j => variableIs (sublayerVariable j) 0

/-- Two rules of one entry that differ at most in the conditions of toggles, which `R` relates. -/
inductive SameButConditions (R : KeyCode → List Condition → List Condition → Prop) :
    (KeyCode × Entry) × Rule → (KeyCode × Entry) × Rule → Prop
  /-- The rules of a command are the same. -/
  | leaf {key : KeyCode} {command : Command} {r : Rule} :
      SameButConditions R ((key, .leaf command), r) ((key, .leaf command), r)
  /-- The rules of a sublayer have toggles that differ in their conditions. -/
  | sublayer {key : KeyCode} {commands : OrderedMap Command} {description : String}
      {toggle : Manipulator} {dispatches : List Manipulator} {conditions : List Condition}
      (related : R key toggle.conditions conditions) :
      SameButConditions R ((key, .sublayer commands), ⟨description, toggle :: dispatches⟩)
        ((key, .sublayer commands),
          ⟨description, { toggle with conditions := conditions } :: dispatches⟩)

/-- From `l` to `l'` the key `key` comes to open a sublayer, and all that the rules of other entries
show of it is one condition in each toggle, at the place of `key` among the sublayers. -/
def Gains (t : Target) (key : KeyCode) (l l' : Layers) : Prop :=
  ∃ before after, l'.sublayerKeys = before ++ key :: after ∧
    List.Forall₂ (SameButConditions fun own conditions conditions' =>
        conditions = closedBut own before ++ closedBut own after ∧
        conditions' = closedBut own before ++
          variableIs (sublayerVariable key) 0 :: closedBut own after)
      (t.rulesApart l key) (t.rulesApart l' key)

/-- Conditions on the variables of `keys` are left out by leaving out these keys. -/
theorem filter_closedBut (own : KeyCode) (keys edited : List KeyCode) :
    ((closedBut own keys).filter fun c => c.name ∉ edited.map sublayerVariable) =
      closedBut own (keys.filter fun key => key ∉ edited) := by
  have hname : ∀ j, (variableIs (sublayerVariable j) 0).name ∈ edited.map sublayerVariable ↔
      j ∈ edited :=
    fun j => List.mem_map_of_injective sublayerVariable_injective
  rw [closedBut, closedBut, List.filter_map, List.filter_filter, List.filter_filter]
  simp only [Function.comp_def, hname, Bool.and_comm]

theorem keyedRules_eq_map (t : Target) (l : Layers) : t.keyedRules l =
    l.entries.entries.map fun e => (e, t.rule (.ofLayers l) e.1 e.2) :=
  List.map_prod_left_eq_zip.symm

/-- There is one rule for each entry. -/
theorem unzip_keyedRules (t : Target) (l : Layers) :
    (t.keyedRules l).unzip = (l.entries.entries, t.rules l) :=
  List.unzip_zip (by rw [rules, List.length_map])

theorem rulesApart_eq_map (t : Target) (l : Layers) (key : KeyCode) : t.rulesApart l key =
    (Entries.erase key l.entries.entries).map fun e => (e, t.rule (.ofLayers l) e.1 e.2) := by
  rw [rulesApart, keyedRules_eq_map, List.filter_map]
  rfl

/-- What is compiled of an entry depends on the other entries in the conditions of toggles only. -/
theorem sameButConditions_rule {R : KeyCode → List Condition → List Condition → Prop}
    {e : KeyCode × Entry}
    (h : R e.1 (closedBut e.1 l.sublayerKeys) (closedBut e.1 l'.sublayerKeys)) :
    SameButConditions R (e, t.rule (.ofLayers l) e.1 e.2) (e, t.rule (.ofLayers l') e.1 e.2) := by
  obtain ⟨key, entry⟩ := e
  cases entry with
  | leaf command => exact .leaf
  | sublayer commands =>
    have hrelated : R key (t.toggle (.ofLayers l) key).conditions
        (t.toggle (.ofLayers l') key).conditions := by
      rw [conditions_toggle, conditions_toggle]
      exact h
    exact .sublayer hrelated

/-- **The rules of other entries depend on the sublayers' keys** and on the other entries. -/
theorem rulesApart_congr
    (herase : Entries.erase key l'.entries.entries = Entries.erase key l.entries.entries)
    (hkeys : l'.sublayerKeys = l.sublayerKeys) : t.rulesApart l' key = t.rulesApart l key := by
  have hregistry : Registry.ofLayers l' = .ofLayers l := congrArg Registry.ofKeys hkeys
  rw [rulesApart_eq_map, rulesApart_eq_map, herase, hregistry]

/-- **One more sublayer is one more condition.** -/
theorem gains_of_sublayerKeys
    (herase : Entries.erase key l'.entries.entries = Entries.erase key l.entries.entries)
    (hkeys : l.sublayerKeys = before ++ after) (hkeys' : l'.sublayerKeys = before ++ key :: after) :
    t.Gains key l l' := by
  refine ⟨before, after, hkeys', ?_⟩
  rw [rulesApart_eq_map, rulesApart_eq_map, herase, List.forall₂_map_left_iff,
    List.forall₂_map_right_iff, List.forall₂_same]
  intro e he
  -- so the condition on `key` is not left out as the toggle's own
  have hne : key ≠ e.1 := by
    rintro rfl
    simp [Entries.erase] at he
  refine sameButConditions_rule ⟨?_, ?_⟩
  · rw [hkeys, closedBut, List.filter_append, List.map_append]
    rfl
  · rw [hkeys', closedBut, List.filter_append, List.filter_cons_of_pos (by simpa using hne),
      List.map_append, List.map_cons]
    rfl

/-- The toggle of a root key that opens a sublayer. -/
theorem manipulatorAt?_toggle {i : ℕ} (hkey : key ∈ l.sublayerKeys)
    (hi : l.entries.keys[i]? = some key) :
    manipulatorAt? (t.rules l) ⟨i, 0⟩ = some (t.toggle (.ofLayers l) key) := by
  rw [OrderedMap.keys, Entries.keys, List.getElem?_map, Option.map_eq_some_iff] at hi
  obtain ⟨e, he, hfst⟩ := hi
  obtain ⟨commands, hmem⟩ := Layers.mem_sublayerKeys.mp hkey
  obtain rfl : e = (key, .sublayer commands) :=
    List.inj_on_of_nodup_map l.entries.nodup (List.mem_of_getElem? he) hmem hfst
  exact manipulatorAt?_rules_iff.mpr (.toggle he)

/-! ### Each kind of edit -/

theorem sublayerKeys_put_sublayer (hkey : key ∈ l.sublayerKeys) (commands : OrderedMap Command) :
    (l.put key (.sublayer commands)).sublayerKeys = l.sublayerKeys := by
  obtain ⟨before, after, hkeys, hput, -⟩ := l.exists_place key
  rw [hput, hkeys, if_pos hkey]
  rfl

theorem rulesApart_put_sublayer (t : Target) (hkey : key ∈ l.sublayerKeys)
    (commands : OrderedMap Command) :
    t.rulesApart (l.put key (.sublayer commands)) key = t.rulesApart l key :=
  rulesApart_congr (Entries.erase_insert _ _ _) (sublayerKeys_put_sublayer hkey commands)

/-- The toggle stays as it is, and where it is, whatever the commands are. -/
theorem exists_toggle_put_sublayer (t : Target) (hkey : key ∈ l.sublayerKeys)
    (commands : OrderedMap Command) : ∃ i toggle, l.entries.keys[i]? = some key ∧
      manipulatorAt? (t.rules l) ⟨i, 0⟩ = some toggle ∧
      manipulatorAt? (t.rules (l.put key (.sublayer commands))) ⟨i, 0⟩ = some toggle := by
  have hmem : key ∈ l.entries.keys := Layers.sublayerKeysOf_subset _ hkey
  obtain ⟨i, hi⟩ := List.mem_iff_getElem?.mp hmem
  have hi' : (l.put key (.sublayer commands)).entries.keys[i]? = some key := by
    rw [Layers.put, OrderedMap.keys_insert, if_pos hmem]
    exact hi
  have hkeys := sublayerKeys_put_sublayer hkey commands
  have hregistry : Registry.ofLayers (l.put key (.sublayer commands)) = .ofLayers l :=
    congrArg Registry.ofKeys hkeys
  refine ⟨i, _, hi, manipulatorAt?_toggle hkey hi, ?_⟩
  rw [manipulatorAt?_toggle (hkeys ▸ hkey) hi', hregistry]

theorem rulesApart_put_leaf (t : Target) (hkey : key ∉ l.sublayerKeys) (command : Command) :
    t.rulesApart (l.put key (.leaf command)) key = t.rulesApart l key := by
  obtain ⟨before, after, hkeys, hput, -⟩ := l.exists_place key
  refine rulesApart_congr (Entries.erase_insert _ _ _) ?_
  rw [hput, hkeys, if_neg hkey]
  rfl

theorem rulesApart_remove (t : Target) (hkey : key ∉ l.sublayerKeys) :
    t.rulesApart (l.remove key) key = t.rulesApart l key := by
  obtain ⟨before, after, hkeys, -, hremove⟩ := l.exists_place key
  refine rulesApart_congr (Entries.erase_erase _ _) ?_
  rw [hremove, hkeys, if_neg hkey, List.append_nil]

theorem gains_put_sublayer (t : Target) (hkey : key ∉ l.sublayerKeys)
    (commands : OrderedMap Command) : t.Gains key l (l.put key (.sublayer commands)) := by
  obtain ⟨before, after, hkeys, hput, -⟩ := l.exists_place key
  rw [if_neg hkey, List.append_nil] at hkeys
  refine gains_of_sublayerKeys (Entries.erase_insert _ _ _) hkeys ?_
  rw [hput, List.append_assoc]
  rfl

theorem gains_remove (t : Target) (hkey : key ∈ l.sublayerKeys) :
    t.Gains key (l.remove key) l := by
  obtain ⟨before, after, hkeys, -, hremove⟩ := l.exists_place key
  rw [if_pos hkey, List.append_assoc] at hkeys
  exact gains_of_sublayerKeys (Entries.erase_erase _ _).symm hremove hkeys

theorem gains_put_leaf (t : Target) (hkey : key ∈ l.sublayerKeys) (command : Command) :
    t.Gains key (l.put key (.leaf command)) l := by
  obtain ⟨before, after, hkeys, hput, -⟩ := l.exists_place key
  rw [if_pos hkey, List.append_assoc] at hkeys
  refine gains_of_sublayerKeys (Entries.erase_insert _ _ _).symm ?_ hkeys
  rw [hput]
  exact congrArg (· ++ after) (List.append_nil before)

/-- Reordering the entries moves their rules, and conditions inside of toggles. -/
theorem keyedRules_perm (t : Target) (hperm : l'.entries.entries.Perm l.entries.entries) :
    ∃ moved, moved.Perm (t.keyedRules l) ∧
      List.Forall₂
        (SameButConditions fun _ conditions conditions' => conditions'.Perm conditions)
        moved (t.keyedRules l') := by
  -- the old rules in the new order
  refine ⟨l'.entries.entries.map fun e => (e, t.rule (.ofLayers l) e.1 e.2), ?_, ?_⟩
  · rw [keyedRules_eq_map]
    exact hperm.map _
  · rw [keyedRules_eq_map, List.forall₂_map_left_iff, List.forall₂_map_right_iff,
      List.forall₂_same]
    intro e _
    refine sameButConditions_rule ?_
    exact (((hperm.filter _).map _).filter _).map _

/-- What the edits of `l` do to its rules. -/
structure EditsAreLocal (t : Target) (l : Layers) : Prop where
  /-- All rules are compared, each with its entry. -/
  keyed : (t.keyedRules l).unzip = (l.entries.entries, t.rules l)
  /-- Other commands in a sublayer leave the rules of other entries and the sublayer's toggle. -/
  commands : ∀ key commands, key ∈ l.sublayerKeys →
    t.rulesApart (l.put key (.sublayer commands)) key = t.rulesApart l key ∧
      ∃ i toggle, l.entries.keys[i]? = some key ∧
        manipulatorAt? (t.rules l) ⟨i, 0⟩ = some toggle ∧
        manipulatorAt? (t.rules (l.put key (.sublayer commands))) ⟨i, 0⟩ = some toggle
  /-- A command that is added, or replaces a command, leaves the rules of other entries. -/
  leafPut : ∀ key command, key ∉ l.sublayerKeys →
    t.rulesApart (l.put key (.leaf command)) key = t.rulesApart l key
  /-- So does a command that is removed. -/
  leafRemoved : ∀ key, key ∉ l.sublayerKeys →
    t.rulesApart (l.remove key) key = t.rulesApart l key
  /-- A sublayer that is added, or replaces a command, gives each other toggle one condition. -/
  sublayerPut : ∀ key commands, key ∉ l.sublayerKeys →
    t.Gains key l (l.put key (.sublayer commands))
  /-- A sublayer that is removed takes it away. -/
  sublayerRemoved : ∀ key, key ∈ l.sublayerKeys → t.Gains key (l.remove key) l
  /-- So does a sublayer that a command replaces. -/
  sublayerReplaced : ∀ key command, key ∈ l.sublayerKeys →
    t.Gains key (l.put key (.leaf command)) l
  /-- Another order of the entries moves their rules, and conditions inside of toggles. -/
  reordered : ∀ l' : Layers, l'.entries.entries.Perm l.entries.entries →
    ∃ moved, moved.Perm (t.keyedRules l) ∧
      List.Forall₂
        (SameButConditions fun _ conditions conditions' => conditions'.Perm conditions)
        moved (t.keyedRules l')

/-- **Edits are local**, for all layers that there are, and so for all that edits lead to. -/
theorem rules_editsAreLocal (t : Target) (l : Layers) : t.EditsAreLocal l where
  keyed := unzip_keyedRules t l
  commands _ commands hkey :=
    ⟨rulesApart_put_sublayer t hkey commands, exists_toggle_put_sublayer t hkey commands⟩
  leafPut _ command hkey := rulesApart_put_leaf t hkey command
  leafRemoved _ hkey := rulesApart_remove t hkey
  sublayerPut _ commands hkey := gains_put_sublayer t hkey commands
  sublayerRemoved _ hkey := gains_remove t hkey
  sublayerReplaced _ command hkey := gains_put_leaf t hkey command
  reordered _ hperm := keyedRules_perm t hperm

/-- The command between the files and the music does not know of either, whatever they hold, and the
toggle of the files loses its condition with the music. -/
theorem rules_editsAreLocal_filesAndMusic :
    (Target.rulesApart {} (Layers.filesAndMusic.put "o" (.sublayer .empty)) "o" =
      Target.rulesApart {} .filesAndMusic "o") ∧
    Target.Gains {} "m" (Layers.filesAndMusic.remove "m") .filesAndMusic := by
  have hlocal := rules_editsAreLocal {} .filesAndMusic
  exact ⟨(hlocal.commands "o" .empty (by decide)).1, hlocal.sublayerRemoved "m" (by decide)⟩

end Target

/-! ### Sessions -/

/-- The root key that a step edits. -/
def Edit.rootKey? : Edit → Option KeyCode
  | .putLayer key _ => some key
  | .deleteLayer key => some key
  | .putCommand layer _ _ => some layer
  | .deleteCommand layer _ => some layer
  | .assignLayers => none
  | .assignKind _ => none
  | .parse _ => none

/-- `l.EditedAt key l'` says that one edit at `key` leads from `l` to `l'`. -/
inductive Layers.EditedAt (l : Layers) (key : KeyCode) : Layers → Prop
  /-- An entry is written. -/
  | put (entry : Entry) : EditedAt l key (l.put key entry)
  /-- The key is erased. -/
  | remove : EditedAt l key (l.remove key)

namespace Layers.EditedAt

variable {l l' : Layers} {key : KeyCode}

/-- What the rules of other entries can notice of an edit. -/
theorem rulesApart (h : l.EditedAt key l') (t : Target) :
    t.rulesApart l' key = t.rulesApart l key ∨ t.Gains key l l' ∨ t.Gains key l' l := by
  by_cases hkey : key ∈ l.sublayerKeys
  · cases h with
    | put entry =>
      cases entry with
      | leaf command => exact .inr (.inr (Target.gains_put_leaf t hkey command))
      | sublayer commands => exact .inl (Target.rulesApart_put_sublayer t hkey commands)
    | remove => exact .inr (.inr (Target.gains_remove t hkey))
  · cases h with
    | put entry =>
      cases entry with
      | leaf command => exact .inl (Target.rulesApart_put_leaf t hkey command)
      | sublayer commands => exact .inr (.inl (Target.gains_put_sublayer t hkey commands))
    | remove => exact .inl (Target.rulesApart_remove t hkey)

/-- An edit keeps the other entries. -/
theorem erase_eq (h : l.EditedAt key l') :
    Entries.erase key l'.entries.entries = Entries.erase key l.entries.entries := by
  cases h with
  | put entry => exact Entries.erase_insert _ _ _
  | remove => exact Entries.erase_erase _ _

end Layers.EditedAt

namespace Session

variable {s s' : Session} {e : Edit} {key : KeyCode}

/-- A step that succeeds edits the layers at its root key. -/
theorem editedAt_of_edit (h : s.edit e = .ok s') (hkey : e.rootKey? = some key) :
    s.layers.EditedAt key s'.layers ∧ s'.target = s.target := by
  cases e with
  | putLayer k v =>
    obtain rfl : k = key := Option.some.inj hkey
    simp only [edit] at h
    split at h
    · next entry _ =>
      obtain rfl := Except.ok.inj h
      exact ⟨.put entry, rfl⟩
    · cases h
  | deleteLayer k =>
    obtain rfl : k = key := Option.some.inj hkey
    simp only [edit] at h
    cases hentry : s.entryOf k with
    | error => simp [hentry, Except.map] at h
    | ok entry =>
      rw [hentry] at h
      obtain rfl := Except.ok.inj h
      exact ⟨.remove, rfl⟩
  | putCommand layer k v =>
    obtain rfl : layer = key := Option.some.inj hkey
    simp only [edit] at h
    split at h
    · next command _ =>
      cases hcommands : s.commandsOf layer with
      | error => simp [hcommands, Except.map] at h
      | ok commands =>
        rw [hcommands] at h
        obtain rfl := Except.ok.inj h
        exact ⟨.put _, rfl⟩
    · cases h
  | deleteCommand layer k =>
    obtain rfl : layer = key := Option.some.inj hkey
    simp only [edit] at h
    split at h
    · split at h
      · obtain rfl := Except.ok.inj h
        exact ⟨.put _, rfl⟩
      · cases h
    · cases h
  | assignLayers => cases hkey
  | assignKind layer => cases hkey
  | parse v => cases hkey

/-- **The steps of a session are local.** -/
theorem edit_local (h : s.edit e = .ok s') (hkey : e.rootKey? = some key) :
    s'.target = s.target ∧
      (s.target.rulesApart s'.layers key = s.target.rulesApart s.layers key ∨
        s.target.Gains key s.layers s'.layers ∨ s.target.Gains key s'.layers s.layers) := by
  obtain ⟨hedited, htarget⟩ := editedAt_of_edit h hkey
  exact ⟨htarget, hedited.rulesApart s.target⟩

/-- The session after steps, if none of them fails. -/
def run (s : Session) (steps : List Edit) : Except EditError Session := steps.foldlM edit s

theorem run_cons (s : Session) (e : Edit) (steps : List Edit) :
    s.run (e :: steps) = (s.edit e).bind fun s' => s'.run steps := rfl

/-- Steps keep the entries of root keys that they do not edit. -/
theorem filter_entries_run {steps : List Edit} {edited : List KeyCode}
    (hsteps : ∀ e ∈ steps, ∃ key ∈ edited, e.rootKey? = some key) (h : s.run steps = .ok s') :
    (s'.layers.entries.entries.filter fun e => e.1 ∉ edited) =
        (s.layers.entries.entries.filter fun e => e.1 ∉ edited) ∧
      s'.target = s.target := by
  induction steps generalizing s with
  | nil =>
    obtain rfl := Except.ok.inj h
    exact ⟨rfl, rfl⟩
  | cons e steps ih =>
    obtain ⟨⟨key, hkey, he⟩, hrest⟩ := List.forall_mem_cons.mp hsteps
    rw [run_cons] at h
    cases hstep : s.edit e with
    | error => simp [hstep, Except.bind] at h
    | ok next =>
      rw [hstep] at h
      obtain ⟨hentries, htarget⟩ := ih hrest h
      obtain ⟨hedited, htarget'⟩ := editedAt_of_edit hstep he
      refine ⟨hentries.trans ?_, htarget.trans htarget'⟩
      -- an entry that is kept by all steps is kept by the first one
      have hkeep : ∀ es : Entries Entry, (es.filter fun e => e.1 ∉ edited) =
          (Entries.erase key es).filter fun e => e.1 ∉ edited := by
        intro es
        rw [Entries.erase, List.filter_filter]
        refine List.filter_congr fun e _ => ?_
        by_cases hek : e.1 = key
        · simp [hek, hkey]
        · simp [hek]
      rw [hkeep, hedited.erase_eq, ← hkeep]

/-- **Runs of a session are local.**  However the layers are edited, the entries of the other root
keys are there after as before, in the same order, and their rules differ at most in conditions of
toggles on the variables of the keys that are edited. -/
theorem run_local {steps : List Edit} {edited : List KeyCode}
    (hsteps : ∀ e ∈ steps, ∃ key ∈ edited, e.rootKey? = some key) (h : s.run steps = .ok s') :
    List.Forall₂
      (Target.SameButConditions fun _ conditions conditions' =>
        (conditions'.filter fun c => c.name ∉ edited.map sublayerVariable) =
          conditions.filter fun c => c.name ∉ edited.map sublayerVariable)
      ((s.target.keyedRules s.layers).filter fun e => e.1.1 ∉ edited)
      ((s'.target.keyedRules s'.layers).filter fun e => e.1.1 ∉ edited) := by
  obtain ⟨hentries, htarget⟩ := filter_entries_run hsteps h
  have hkeys : (s'.layers.sublayerKeys.filter fun key => key ∉ edited) =
      s.layers.sublayerKeys.filter fun key => key ∉ edited := by
    have hfilter := congrArg Layers.sublayerKeysOf hentries
    rw [Layers.sublayerKeysOf_filter fun key => key ∉ edited,
      Layers.sublayerKeysOf_filter fun key => key ∉ edited] at hfilter
    exact hfilter
  rw [htarget, Target.keyedRules_eq_map, Target.keyedRules_eq_map, List.filter_map,
    List.filter_map]
  simp only [Function.comp_def]
  rw [hentries, List.forall₂_map_left_iff, List.forall₂_map_right_iff, List.forall₂_same]
  intro e _
  refine Target.sameButConditions_rule ?_
  rw [Target.filter_closedBut, Target.filter_closedBut, hkeys]

end Session

end KeyLayers
