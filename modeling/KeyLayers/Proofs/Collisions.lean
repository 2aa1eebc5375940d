import KeyLayers.Proofs.Relabelling
import KeyLayers.Proofs.Rules
import KeyLayers.Proofs.Translation

/-!
# No two manipulators wait for the same place

The keys of a description are distinct, but a manipulator waits for the place of
its key, and where two keys have one place the second of their manipulators is
never reached.  Under the hyper chord the manipulators of all root keys compete,
whether they fire a command or open a sublayer; in a sublayer its dispatches do.

What keeps them apart is that the translation merges no keys, and nothing less
will do.  The descriptions of the rules are told apart by the same, although only
those of commands name places: the other ones name keys, and in other words.

## Main definitions

* `Host.Rule.places` — what the manipulators of a rule wait for.
* `Target.Separates` — manipulators and rules are told apart.

## Main results

* `OrderedMap.nodup_map` — what tells keys apart tells the entries of a map apart.
* `Target.forall_separates_iff` — **what is told apart under every description.**
* `Layout.separates_ofLayout` — **the known layouts keep everything apart.**
-/

namespace KeyLayers

open Host

/-- The places of the keys that the manipulators of a rule wait for, in order. -/
def Host.Rule.places (r : Rule) : List String := r.manipulators.map fun m => m.trigger.keyCode

/-- What tells keys apart tells the entries of a map apart. -/
theorem OrderedMap.nodup_map {α β : Type} {f : String × α → β}
    (hf : ∀ d e, f d = f e → d.1 = e.1) (m : OrderedMap α) : (m.entries.map f).Nodup := by
  have hkeys : m.entries.Pairwise fun d e => d.1 ≠ e.1 := List.pairwise_map.mp m.nodup
  exact List.pairwise_map.mpr (hkeys.imp fun hne heq => hne (hf _ _ heq))

namespace Target

variable {t : Target}

/-- Compiled for `t`, no two manipulators of `l` compete for a key, and no two rules look alike. -/
structure Separates (t : Target) (l : Layers) : Prop where
  /-- The first manipulator of each rule, a command or a toggle, waits for a place of its own. -/
  roots : ∃ places : List String,
    (t.rules l).map (fun r => r.places.head?) = places.map some ∧ places.Nodup
  /-- The other ones are the dispatches of a sublayer, and among them so does each. -/
  dispatches : ∀ r ∈ t.rules l, r.places.tail.Nodup
  /-- Each rule has a description of its own. -/
  descriptions : ((t.rules l).map Rule.description).Nodup

/-! ### What is waited for -/

/-- The first manipulator of a rule waits for the place of the root key. -/
theorem head?_places_rule (t : Target) (registry : Registry) (key : KeyCode) (entry : Entry) :
    (t.rule registry key entry).places.head? = some (t.translation.apply key) := by
  cases entry with
  | leaf command => rfl
  | sublayer commands => rfl

/-- All root keys compete under the hyper chord. -/
theorem roots_rules (t : Target) (l : Layers) :
    (t.rules l).map (fun r => r.places.head?) =
      (l.entries.entries.map fun e => t.translation.apply e.1).map some := by
  rw [rules, List.map_map, List.map_map]
  exact List.map_congr_left fun e _ => t.head?_places_rule (.ofLayers l) e.1 e.2

/-- There are other ones only in the rule of a sublayer. -/
theorem tail_places_rule_leaf (t : Target) (registry : Registry) (key : KeyCode)
    (command : Command) : (t.rule registry key (.leaf command)).places.tail = [] := rfl

/-- They wait for the places of the keys of its commands. -/
theorem tail_places_rule_sublayer (t : Target) (registry : Registry) (key : KeyCode)
    (commands : OrderedMap Command) : (t.rule registry key (.sublayer commands)).places.tail =
      commands.entries.map fun e => t.translation.apply e.1 := by
  simp only [Rule.places, manipulators_rule_sublayer, List.map_cons, List.tail_cons,
    List.map_map]
  rfl

/-! ### Descriptions -/

/-- The description of a command begins with other words than that of a sublayer. -/
theorem description_leaf_ne (place key : String) :
    "Hyper Key + " ++ place ≠ "Hyper Key sublayer \"" ++ key ++ "\"" := by
  intro h
  have hchars := congrArg (fun s => s.toList[10]?) h
  simp [String.toList_append] at hchars

/-- Rules that look alike are rules of one root key, if no keys are merged. -/
theorem key_of_description (h : Function.Injective t.translation.apply) {registry : Registry}
    {j k : KeyCode} {d e : Entry}
    (hde : (t.rule registry j d).description = (t.rule registry k e).description) : j = k := by
  cases d with
  | leaf command =>
    cases e with
    | leaf command' => exact h ((String.append_right_inj _).mp hde)
    | sublayer commands => exact absurd hde (description_leaf_ne _ _)
  | sublayer commands =>
    cases e with
    | leaf command => exact absurd hde.symm (description_leaf_ne _ _)
    | sublayer commands' =>
      exact (String.append_right_inj _).mp ((String.append_left_inj _).mp hde)

/-! ### Keeping apart -/

theorem separates_of_injective (h : Function.Injective t.translation.apply) (l : Layers) :
    t.Separates l where
  roots := ⟨_, t.roots_rules l, l.entries.nodup_map fun _ _ hplace => h hplace⟩
  dispatches := by
    intro r hr
    obtain ⟨⟨key, entry⟩, -, rfl⟩ := List.mem_map.mp hr
    cases entry with
    | leaf command =>
      rw [tail_places_rule_leaf]
      exact List.nodup_nil
    | sublayer commands =>
      rw [tail_places_rule_sublayer]
      exact commands.nodup_map fun _ _ hplace => h hplace
  descriptions := by
    rw [rules, List.map_map]
    exact l.entries.nodup_map fun _ _ hdescription => key_of_description h hdescription

/-- **What is told apart under every description** is what the translation tells apart: two keys
that it merges could both be root keys. -/
theorem forall_separates_iff :
    (∀ l, t.Separates l) ↔ Function.Injective t.translation.apply := by
  refine ⟨fun h j k hjk => ?_, separates_of_injective⟩
  by_contra hne
  have hkeys : [j, k].Nodup := by simpa using hne
  obtain ⟨places, hplaces, hnodup⟩ :=
    (h ⟨⟨[(j, .leaf ⟨[], none⟩), (k, .leaf ⟨[], none⟩)], hkeys⟩⟩).roots
  rw [roots_rules, List.map_inj_right fun _ _ => Option.some.inj] at hplaces
  subst hplaces
  simp [hjk] at hnodup

end Target

/-- **The known layouts keep everything apart**: without further entries each of them permutes the
keys, so that whatever the hyper chord and the description are, no two root keys wait for one
place, no two commands of a sublayer do, and no two rules have one description. -/
theorem Layout.separates_ofLayout (layout : Layout) :
    ∃ translation, Translation.ofLayout layout.name .empty = .ok translation ∧
      Function.Bijective translation.apply ∧
      ∀ (hyper : List KeyLayers.Modifier) (l : Layers), Target.Separates ⟨translation, hyper⟩ l := by
  have hbijective := layout.apply_bijective
  refine ⟨⟨layout.table⟩, ?_, hbijective, fun hyper l => ?_⟩
  · rw [Translation.ofLayout, Layout.ofName?_name]
    rfl
  · exact Target.separates_of_injective hbijective.injective l

end KeyLayers
