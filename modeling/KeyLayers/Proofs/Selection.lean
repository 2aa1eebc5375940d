import KeyLayers.Proofs.Rules

/-!
# Where strokes go to

All rules compete for the same keys, and the first manipulator that matches a
stroke gets it.  While no sublayer is open, a root key under the hyper chord goes
to its own entry, since the dispatches of all sublayers wait for a variable.
While one sublayer is open, a key of its commands goes to its dispatch, whatever
modifiers are held.  Only the hyper chord can bring something before it: the
toggle of the sublayer itself, or a command of the same root key in an earlier
entry.

This needs a layout that keeps the bound keys apart; else two of them would be
one key of the host.

## Main definitions

* `Layers.boundKeys` — the root keys and the keys of commands.
* `Layers.Closed`, `Layers.OnlyOpen` — no sublayer is open, just one is.
* `Target.own` — the manipulator of a root key.

## Main results

* `Target.matches_leaf_iff`, `Target.matches_toggle_iff`,
  `Target.matches_dispatch_iff` — what each kind of manipulator waits for.
* `Target.chosen_rules` — **where strokes go to.**
-/

namespace KeyLayers

open Host

theorem Host.Slot.not_before_self (slot : Slot) : ¬ slot.Before slot := by
  unfold Slot.Before
  omega

/-! ### Bound keys -/

/-- The keys of a sublayer's commands, in order. -/
def Entry.commandKeys : Entry → List KeyCode
  | .leaf _ => []
  | .sublayer commands => commands.keys

namespace Layers

/-- The root keys and the keys of commands. -/
def boundKeys (l : Layers) : List KeyCode :=
  l.entries.keys ++ l.entries.entries.flatMap fun e => e.2.commandKeys

/-- No sublayer is open. -/
def Closed (l : Layers) (store : Store) : Prop :=
  ∀ key ∈ l.sublayerKeys, store (sublayerVariable key) = .int 0

/-- The sublayer of `key` is open, and no other one is. -/
structure OnlyOpen (l : Layers) (store : Store) (key : KeyCode) : Prop where
  /-- Its variable is 1. -/
  own : store (sublayerVariable key) = .int 1
  /-- The other ones are 0. -/
  other : ∀ j ∈ l.sublayerKeys, j ≠ key → store (sublayerVariable j) = .int 0

variable {l : Layers} {i n : ℕ} {key commandKey : KeyCode} {entry : Entry}
  {commands : OrderedMap Command} {command : Command}

theorem root_mem_boundKeys (h : l.entries.entries[i]? = some (key, entry)) :
    key ∈ l.boundKeys := by
  have hkey : key ∈ l.entries.keys := List.mem_map_of_mem (List.mem_of_getElem? h)
  exact List.mem_append_left _ hkey

theorem command_mem_boundKeys (h : l.entries.entries[i]? = some (key, .sublayer commands))
    (hn : commands.entries[n]? = some (commandKey, command)) : commandKey ∈ l.boundKeys := by
  have hkey : commandKey ∈ commands.keys :=
    List.mem_map_of_mem (List.mem_of_getElem? hn)
  exact List.mem_append_right _ (List.mem_flatMap.mpr ⟨_, List.mem_of_getElem? h, hkey⟩)

end Layers

namespace Target

variable {t : Target} {l : Layers} {store : Store} {stroke : Stroke} {key : KeyCode}

/-- The manipulator of a root key: its command or its toggle. -/
def own (t : Target) (l : Layers) (key : KeyCode) : Entry → Manipulator
  | .leaf command => t.leaf key command
  | .sublayer _ => t.toggle (.ofLayers l) key

theorem places_own {i : ℕ} {entry : Entry} (h : l.entries.entries[i]? = some (key, entry)) :
    t.Places l ⟨i, 0⟩ (t.own l key entry) := by
  cases entry with
  | leaf command => exact .leaf h
  | sublayer commands => exact .toggle h

/-! ### What manipulators wait for -/

/-- The hyper chord is waited for as a set: exactly its modifiers are held. -/
theorem accepts_hyperTrigger_iff : (t.hyperTrigger key).Accepts stroke ↔
    t.translation.apply key = stroke.keyCode ∧ stroke.held = t.hyper.toFinset := by
  have hmandatory : (t.hyperTrigger key).mandatory = t.hyper.map .key := rfl
  -- so the chord is never the modifier that stands for any
  have hany : t.hyper.map Host.Modifier.key ≠ [.any] := by
    intro h
    have hmem : Host.Modifier.any ∈ t.hyper.map .key := h ▸ List.mem_singleton_self _
    obtain ⟨m, -, hm⟩ := List.mem_map.mp hmem
    cases hm
  have hkey : Function.Injective (Finset.image Host.Modifier.key) :=
    Finset.image_injective fun _ _ h => Host.Modifier.key.inj h
  have himage : (t.hyper.map Host.Modifier.key).toFinset = t.hyper.toFinset.image .key := by
    ext m
    simp
  unfold Trigger.Accepts
  rw [hmandatory, or_iff_right hany, himage, hkey.eq_iff]
  exact and_congr_right' eq_comm

theorem matches_leaf_iff {command : Command} : (t.leaf key command).Matches store stroke ↔
    t.translation.apply key = stroke.keyCode ∧ stroke.held = t.hyper.toFinset := by
  have henabled : (t.leaf key command).Enabled store := fun c hc => absurd hc List.not_mem_nil
  unfold Manipulator.Matches
  rw [and_iff_left henabled]
  exact accepts_hyperTrigger_iff

theorem matches_toggle_iff : (t.toggle (.ofLayers l) key).Matches store stroke ↔
    (t.translation.apply key = stroke.keyCode ∧ stroke.held = t.hyper.toFinset) ∧
      ∀ j ∈ l.sublayerKeys, j ≠ key → store (sublayerVariable j) = .int 0 := by
  unfold Manipulator.Matches
  rw [enabled_toggle_iff]
  exact and_congr_left' accepts_hyperTrigger_iff

/-- A dispatch takes any modifiers. -/
theorem matches_dispatch_iff {commandKey : KeyCode} {command : Command} :
    (t.dispatch key commandKey command).Matches store stroke ↔
      t.translation.apply commandKey = stroke.keyCode ∧
        store (sublayerVariable key) = .int 1 := by
  have haccepts : (t.dispatch key commandKey command).trigger.Accepts stroke ↔
      t.translation.apply commandKey = stroke.keyCode := and_iff_left (Or.inl rfl)
  have henabled : (t.dispatch key commandKey command).Enabled store ↔
      store (sublayerVariable key) = .int 1 := List.forall_mem_singleton
  unfold Manipulator.Matches
  rw [haccepts, henabled]

/-! ### No sublayer is open -/

/-- While no sublayer is open, only the entry of a root key waits for it. -/
theorem slot_of_matches_closed (hinj : Set.InjOn t.translation.apply {k | k ∈ l.boundKeys})
    (hclosed : l.Closed store) {i : ℕ} {entry : Entry}
    (h : l.entries.entries[i]? = some (key, entry)) {slot : Slot} {m : Manipulator}
    (hplace : t.Places l slot m)
    (hmatch : m.Matches store ⟨t.translation.apply key, t.hyper.toFinset⟩) : slot = ⟨i, 0⟩ := by
  have hkey := Layers.root_mem_boundKeys h
  cases hplace with
  | leaf hentry =>
    obtain rfl := hinj (Layers.root_mem_boundKeys hentry) hkey (matches_leaf_iff.mp hmatch).1
    rw [Entries.index_unique l.entries.nodup hentry h]
  | toggle hentry =>
    obtain rfl := hinj (Layers.root_mem_boundKeys hentry) hkey (matches_toggle_iff.mp hmatch).1.1
    rw [Entries.index_unique l.entries.nodup hentry h]
  | dispatch hentry hbinding =>
    -- its variable would have to be 1
    have hone := (matches_dispatch_iff.mp hmatch).2
    rw [hclosed _ (Layers.mem_sublayerKeys_of_getElem? hentry)] at hone
    cases hone

theorem matches_own (hclosed : l.Closed store) (entry : Entry) :
    (t.own l key entry).Matches store ⟨t.translation.apply key, t.hyper.toFinset⟩ := by
  cases entry with
  | leaf command => exact matches_leaf_iff.mpr ⟨rfl, rfl⟩
  | sublayer commands => exact matches_toggle_iff.mpr ⟨⟨rfl, rfl⟩, fun j hj _ => hclosed j hj⟩

/-! ### One sublayer is open -/

section Open

variable {commands : OrderedMap Command} {commandKey : KeyCode} {command : Command} {i n : ℕ}

/-- While a sublayer is open, three things can wait for the key of one of its commands: the
dispatch, and under the hyper chord its own toggle or a command of that root key. -/
theorem place_of_matches_open (hinj : Set.InjOn t.translation.apply {k | k ∈ l.boundKeys})
    (hopen : l.OnlyOpen store key)
    (h : l.entries.entries[i]? = some (key, .sublayer commands))
    (hn : commands.entries[n]? = some (commandKey, command)) {slot : Slot} {m : Manipulator}
    (hplace : t.Places l slot m) (hmatch : m.Matches store stroke)
    (hstroke : stroke.keyCode = t.translation.apply commandKey) :
    slot = ⟨i, n + 1⟩ ∨ stroke.held = t.hyper.toFinset ∧
      (commandKey = key ∧ slot = ⟨i, 0⟩ ∨
        ∃ j leafCommand, l.entries.entries[j]? = some (commandKey, .leaf leafCommand) ∧
          slot = ⟨j, 0⟩) := by
  have hkey := Layers.command_mem_boundKeys h hn
  cases hplace with
  | @leaf j leafKey leafCommand hentry =>
    obtain ⟨hcode, hheld⟩ := matches_leaf_iff.mp hmatch
    obtain rfl := hinj (Layers.root_mem_boundKeys hentry) hkey (hcode.trans hstroke)
    exact Or.inr ⟨hheld, Or.inr ⟨j, leafCommand, hentry, rfl⟩⟩
  | @toggle j toggleKey _ hentry =>
    obtain ⟨⟨hcode, hheld⟩, hothers⟩ := matches_toggle_iff.mp hmatch
    obtain rfl := hinj (Layers.root_mem_boundKeys hentry) hkey (hcode.trans hstroke)
    -- a toggle of another sublayer would have to see the open one closed
    have hsame : toggleKey = key := by
      by_contra hne
      have hzero := hothers key (Layers.mem_sublayerKeys_of_getElem? h) (Ne.symm hne)
      rw [hopen.own] at hzero
      cases hzero
    subst hsame
    rw [Entries.index_unique l.entries.nodup hentry h]
    exact Or.inr ⟨hheld, Or.inl ⟨rfl, rfl⟩⟩
  | @dispatch j p openKey otherKey _ _ hentry hbinding =>
    obtain ⟨hcode, hone⟩ := matches_dispatch_iff.mp hmatch
    obtain rfl := hinj (Layers.command_mem_boundKeys hentry hbinding) hkey (hcode.trans hstroke)
    have hsame : openKey = key := by
      by_contra hne
      rw [hopen.other openKey (Layers.mem_sublayerKeys_of_getElem? hentry) hne] at hone
      cases hone
    subst hsame
    obtain rfl := Entries.index_unique l.entries.nodup hentry h
    rw [hentry] at h
    cases h
    obtain rfl := Entries.index_unique commands.nodup hbinding hn
    exact Or.inl rfl

/-- The dispatch gets its key, unless something before it takes the hyper chord. -/
theorem chosen_dispatch_iff (hinj : Set.InjOn t.translation.apply {k | k ∈ l.boundKeys})
    (hopen : l.OnlyOpen store key)
    (h : l.entries.entries[i]? = some (key, .sublayer commands))
    (hn : commands.entries[n]? = some (commandKey, command))
    (held : Finset KeyLayers.Modifier) :
    Chosen (t.rules l) store ⟨t.translation.apply commandKey, held⟩ ⟨i, n + 1⟩ ↔
      ¬ (held = t.hyper.toFinset ∧
        (commandKey = key ∨
          ∃ j < i, ∃ leafCommand, l.entries.entries[j]? = some (commandKey, .leaf leafCommand))) := by
  constructor
  · rintro hchosen ⟨rfl, rfl | ⟨j, hj, leafCommand, hleaf⟩⟩
    · -- the toggle stands before all dispatches of its rule
      have hbefore : Slot.Before ⟨i, 0⟩ ⟨i, n + 1⟩ := Or.inr ⟨rfl, Nat.succ_pos n⟩
      have hplace := manipulatorAt?_rules_iff.mpr (Places.toggle (t := t) h)
      exact hchosen.first _ _ hbefore hplace (matches_toggle_iff.mpr ⟨⟨rfl, rfl⟩, hopen.other⟩)
    · have hbefore : Slot.Before ⟨j, 0⟩ ⟨i, n + 1⟩ := Or.inl hj
      have hplace := manipulatorAt?_rules_iff.mpr (Places.leaf (t := t) hleaf)
      exact hchosen.first _ _ hbefore hplace (matches_leaf_iff.mpr ⟨rfl, rfl⟩)
  · intro hfree
    refine ⟨⟨_, manipulatorAt?_rules_iff.mpr (.dispatch h hn), ?_⟩, ?_⟩
    · exact matches_dispatch_iff.mpr ⟨rfl, hopen.own⟩
    · intro earlier m hbefore hm hmatch
      have hplace := manipulatorAt?_rules_iff.mp hm
      rcases place_of_matches_open hinj hopen h hn hplace hmatch rfl with
        rfl | ⟨hheld, ⟨rfl, rfl⟩ | ⟨j, leafCommand, hleaf, rfl⟩⟩
      · exact Slot.not_before_self _ hbefore
      · exact hfree ⟨hheld, Or.inl rfl⟩
      · rcases hbefore with hj | ⟨rfl, -⟩
        · exact hfree ⟨hheld, Or.inr ⟨j, hj, leafCommand, hleaf⟩⟩
        · -- the rule of a sublayer is not that of a command
          rw [h] at hleaf
          cases hleaf

end Open

/-- **Where strokes go to.**  Under a layout that keeps the bound keys apart: while no sublayer is
open, a root key under the hyper chord goes to its own manipulator and to no other one; while one
sublayer is open, the key of a command goes to its dispatch under any modifiers, except for the
hyper chord if the key is the root key of the sublayer or of a command in an earlier entry. -/
theorem chosen_rules (t : Target) (l : Layers)
    (hinj : Set.InjOn t.translation.apply {k | k ∈ l.boundKeys}) (store : Store) :
    (l.Closed store → ∀ i key entry, l.entries.entries[i]? = some (key, entry) →
      manipulatorAt? (t.rules l) ⟨i, 0⟩ = some (t.own l key entry) ∧
        ∀ slot, Chosen (t.rules l) store ⟨t.translation.apply key, t.hyper.toFinset⟩ slot ↔
          slot = ⟨i, 0⟩) ∧
      ∀ i n key commandKey commands command,
        l.entries.entries[i]? = some (key, .sublayer commands) →
        commands.entries[n]? = some (commandKey, command) → l.OnlyOpen store key →
        manipulatorAt? (t.rules l) ⟨i, n + 1⟩ = some (t.dispatch key commandKey command) ∧
          ∀ held, Chosen (t.rules l) store ⟨t.translation.apply commandKey, held⟩ ⟨i, n + 1⟩ ↔
            ¬ (held = t.hyper.toFinset ∧
              (commandKey = key ∨
                ∃ j < i, ∃ leafCommand,
                  l.entries.entries[j]? = some (commandKey, .leaf leafCommand))) := by
  constructor
  · intro hclosed i key entry h
    have hplace := manipulatorAt?_rules_iff.mpr (places_own (t := t) h)
    have hchosen : Chosen (t.rules l) store ⟨t.translation.apply key, t.hyper.toFinset⟩ ⟨i, 0⟩ := by
      refine ⟨⟨_, hplace, matches_own hclosed entry⟩, ?_⟩
      intro earlier m hbefore hm hmatch
      obtain rfl := slot_of_matches_closed hinj hclosed h (manipulatorAt?_rules_iff.mp hm) hmatch
      exact Slot.not_before_self _ hbefore
    refine ⟨hplace, fun slot => ⟨fun hslot => hslot.unique hchosen, ?_⟩⟩
    rintro rfl
    exact hchosen
  · intro i n key commandKey commands command h hn hopen
    refine ⟨manipulatorAt?_rules_iff.mpr (.dispatch h hn), fun held => ?_⟩
    exact chosen_dispatch_iff hinj hopen h hn held

/-- The Colemak layout under the default hyper chord. -/
def colemak : Target := { translation := ⟨Layout.colemak.table⟩ }

/-- Under Colemak, `o` is where the host has `semicolon`; and `f6`, a root key and a key of the
second sublayer, goes to the sublayer while that is open, but not under the hyper chord. -/
theorem chosen_rules_colemak :
    Chosen (colemak.rules .filesAndMusic) (fun _ => .int 0)
        ⟨"semicolon", hyperChord.toFinset⟩ ⟨0, 0⟩ ∧
      Chosen (colemak.rules .filesAndMusic)
        (Function.update (fun _ => .int 0) "hyper_sublayer_m" (.int 1)) ⟨"f6", ∅⟩ ⟨2, 1⟩ ∧
      ¬ Chosen (colemak.rules .filesAndMusic)
        (Function.update (fun _ => .int 0) "hyper_sublayer_m" (.int 1))
        ⟨"f6", hyperChord.toFinset⟩ ⟨2, 1⟩ := by
  have hkeys : ∀ j ∈ Layers.filesAndMusic.boundKeys, ∀ k ∈ Layers.filesAndMusic.boundKeys,
      colemak.translation.apply j = colemak.translation.apply k → j = k := by decide
  have hinj : Set.InjOn colemak.translation.apply {k | k ∈ Layers.filesAndMusic.boundKeys} :=
    fun j hj k hk => hkeys j hj k hk
  have hclosed : Layers.filesAndMusic.Closed fun _ => .int 0 := fun _ _ => rfl
  have hopen : Layers.filesAndMusic.OnlyOpen
      (Function.update (fun _ => .int 0) "hyper_sublayer_m" (.int 1)) "m" :=
    ⟨by decide, by decide⟩
  have hroot := (chosen_rules colemak _ hinj _).1 hclosed 0 "o" _ rfl
  have hdispatch := (chosen_rules colemak _ hinj _).2 2 0 "m" "f6" _ _ rfl rfl hopen
  refine ⟨(hroot.2 _).mpr rfl, (hdispatch.2 ∅).mpr ?_, ?_⟩
  · rintro ⟨hheld, -⟩
    exact absurd hheld (by decide)
  · intro hchosen
    exact (hdispatch.2 _).mp hchosen ⟨rfl, Or.inr ⟨1, by decide, _, rfl⟩⟩

end Target

end KeyLayers
