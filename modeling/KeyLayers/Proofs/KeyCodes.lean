import KeyLayers.Config.Schema
import KeyLayers.Config.Written
import KeyLayers.Output
import KeyLayers.Proofs.Config.Actions
import KeyLayers.Proofs.Rules

/-!
# The key codes of an output

A key code comes from a text by way of several tables: a text is brought to
canonical spelling, an alias of a key may stand for another key, an alias of a
modifier for a key in a chord, and what is waited for goes through the layout
and the remapped keys.  Blank texts are refused at the start of each of these
ways, but not at the end of them: a table may send a name to a blank one, and
then the key code is empty.  So it is not true that no key code is empty.

What is true is said in two steps.  The key codes of an output are exactly those
that its configuration uses, and an empty one among them goes back to a blank
name in one of the tables.

## Main definitions

* `Output.keyCodes` — the keys that an output waits for and those that it sends.
* `Target.Uses`, `Config.Uses` — the key codes that layers and configurations use.

## Main results

* `Target.mem_keyCodes_rules_iff` — the key codes of compiled rules.
* `Config.emptyKeyCode_iff` — **when an output has an empty key code.**
-/

namespace KeyLayers

open Host

/-! ### The key codes of rules -/

/-- The key that a manipulator waits for, and those that it sends. -/
def Host.Manipulator.keyCodes (m : Manipulator) : List String :=
  m.trigger.keyCode ::
    (m.onPress.getD [] ++ m.onRelease.getD []).filterMap Event.keyCode

/-- The function key, and the keys that it is replaced by. -/
def Host.Replacement.keyCodes (r : Replacement) : List String :=
  r.trigger.keyCode :: r.events.filterMap Event.keyCode

/-- The keys that rules wait for and send. -/
def Host.Rule.keyCodesOf (rules : List Rule) : List String :=
  rules.flatMap fun r => r.manipulators.flatMap Manipulator.keyCodes

/-- The keys that an output waits for and sends. -/
def Output.keyCodes : Output → List String
  | .rules s => Rule.keyCodesOf s.rules
  | .profile p => Rule.keyCodesOf p.block.rules ++ p.functionKeys.flatMap Replacement.keyCodes

/-- The key codes that layers use: where they wait for a key, and where they press one. -/
inductive Target.Uses (t : Target) (l : Layers) : String → Prop
  | root {key : KeyCode} {entry : Entry} (mem : (key, entry) ∈ l.entries.entries) :
    Uses t l (t.translation.apply key)
  | command {key commandKey : KeyCode} {commands : OrderedMap Command} {command : Command}
    (mem : (key, .sublayer commands) ∈ l.entries.entries)
    (binding : (commandKey, command) ∈ commands.entries) :
    Uses t l (t.translation.apply commandKey)
  | press {command : Command} {action : Action} {code : String} (mem : command ∈ l.commandList)
    (fires : action ∈ command.actions) (sends : (t.event action).keyCode = some code) :
    Uses t l code

namespace Target

variable {t : Target} {l : Layers} {code : String}

theorem mem_keyCodes_toggle {r : Registry} {key : KeyCode} :
    code ∈ (t.toggle r key).keyCodes ↔ code = t.translation.apply key := by
  simp [Manipulator.keyCodes, toggle, hyperTrigger, assign]

theorem mem_keyCodes_leaf {key : KeyCode} {command : Command} :
    code ∈ (t.leaf key command).keyCodes ↔ code = t.translation.apply key ∨
      ∃ action ∈ command.actions, (t.event action).keyCode = some code := by
  simp [Manipulator.keyCodes, leaf, hyperTrigger]

theorem mem_keyCodes_dispatch {key commandKey : KeyCode} {command : Command} :
    code ∈ (t.dispatch key commandKey command).keyCodes ↔ code = t.translation.apply commandKey ∨
      ∃ action ∈ command.actions, (t.event action).keyCode = some code := by
  simp [Manipulator.keyCodes, dispatch]

theorem mem_keyCodesOf {rules : List Rule} {r : Rule} {m : Manipulator} (hr : r ∈ rules)
    (hm : m ∈ r.manipulators) (h : code ∈ m.keyCodes) : code ∈ Rule.keyCodesOf rules :=
  List.mem_flatMap.mpr ⟨r, hr, List.mem_flatMap.mpr ⟨m, hm, h⟩⟩

/-- **The key codes of compiled rules are those that the layers use.** -/
theorem mem_keyCodes_rules_iff : code ∈ Rule.keyCodesOf (t.rules l) ↔ t.Uses l code := by
  have hrule {e : KeyCode × Entry} (he : e ∈ l.entries.entries) :
      t.rule (.ofLayers l) e.1 e.2 ∈ t.rules l := List.mem_map_of_mem he
  constructor
  · intro h
    obtain ⟨r, hr, h⟩ := List.mem_flatMap.mp h
    obtain ⟨m, hm, hcode⟩ := List.mem_flatMap.mp h
    obtain ⟨⟨key, entry⟩, he, rfl⟩ := List.mem_map.mp hr
    cases entry with
    | leaf command =>
      obtain rfl := List.mem_singleton.mp hm
      rcases mem_keyCodes_leaf.mp hcode with rfl | ⟨action, haction, hsends⟩
      · exact .root he
      · exact .press (Layers.mem_commandList he (List.mem_singleton_self _)) haction hsends
    | sublayer commands =>
      rw [manipulators_rule_sublayer, List.mem_cons, List.mem_map] at hm
      rcases hm with rfl | ⟨⟨commandKey, command⟩, hbinding, rfl⟩
      · obtain rfl := mem_keyCodes_toggle.mp hcode
        exact .root he
      · rcases mem_keyCodes_dispatch.mp hcode with rfl | ⟨action, haction, hsends⟩
        · exact .command he hbinding
        · exact .press (Layers.mem_commandList he (List.mem_map_of_mem hbinding)) haction hsends
  · intro h
    cases h with
    | @root key entry he =>
      cases entry with
      | leaf command =>
        exact mem_keyCodesOf (hrule he) (List.mem_singleton_self _)
          (mem_keyCodes_leaf.mpr (.inl rfl))
      | sublayer commands =>
        exact mem_keyCodesOf (hrule he) List.mem_cons_self (mem_keyCodes_toggle.mpr rfl)
    | command he hbinding =>
      exact mem_keyCodesOf (hrule he) (List.mem_cons_of_mem _ (List.mem_map_of_mem hbinding))
        (mem_keyCodes_dispatch.mpr (.inl rfl))
    | press hcommand haction hsends =>
      -- the command belongs to a root key or to a sublayer, and is fired by the rule of either
      obtain ⟨⟨key, entry⟩, he, hmem⟩ := List.mem_flatMap.mp hcommand
      cases entry with
      | leaf command =>
        obtain rfl := List.mem_singleton.mp hmem
        exact mem_keyCodesOf (hrule he) (List.mem_singleton_self _)
          (mem_keyCodes_leaf.mpr (.inr ⟨_, haction, hsends⟩))
      | sublayer commands =>
        obtain ⟨e, hbinding, rfl⟩ := List.mem_map.mp hmem
        exact mem_keyCodesOf (hrule he) (List.mem_cons_of_mem _ (List.mem_map_of_mem hbinding))
          (mem_keyCodes_dispatch.mpr (.inr ⟨_, haction, hsends⟩))

end Target

/-! ### The key codes of configurations -/

namespace Config

/-- The effects of what a root key is bound to. -/
def Body.effects : Body → List Effect
  | .command binding => [binding.effect]
  | .commands bindings => bindings.entries.map fun e => e.2.effect

/-- The keys that an effect presses. -/
inductive Effect.Presses (c : Config) : Effect → String → Prop
  | event {events : List Event} {code : String} {modifiers : List String}
    (mem : .key code modifiers ∈ events) : Presses c (.send events) (c.keyOf code)
  | chord {chord : String} {press : KeyPress}
    (reads : KeyPress.ofChord c.aliases.key c.aliases.mod Chord.plus false chord = .ok press) :
    Presses c (.emit chord) press.keyCode

/-- The key codes that a configuration uses: where it waits for a key, and where it presses one. -/
inductive Uses (c : Config) (t : Target) : String → Prop
  | root {layer : Layer} (mem : layer ∈ c.layers) :
    Uses c t (t.translation.apply (c.keyOf layer.key))
  | command {layer : Layer} {bindings : OrderedMap Binding} {e : String × Binding}
    (mem : layer ∈ c.layers) (body : layer.body = .commands bindings)
    (binding : e ∈ bindings.entries) : Uses c t (t.translation.apply (c.keyOf e.1))
  | press {layer : Layer} {effect : Effect} {code : String} (mem : layer ∈ c.layers)
    (effects : effect ∈ layer.body.effects) (presses : effect.Presses c code) : Uses c t code

variable {c : Config} {t : Target} {code : String}

theorem Event.Denotes.keyCode_eq_some_iff {event : Event} {action : Action}
    (h : event.Denotes c action) : (t.event action).keyCode = some code ↔
      ∃ text modifiers, event = .key text modifiers ∧ c.keyOf text = code := by
  cases h with
  | @key text modifiers ms names => simp [Target.event]
  | consumerKey _ => simp [Target.event]
  | vendorKey _ => simp [Target.event]
  | shell _ => simp [Target.event]

/-- A command that runs in a shell presses no key. -/
theorem not_sends_shell (text : String) :
    ¬ ∃ action ∈ [Action.shell text], (t.event action).keyCode = some code := by
  simp [Target.event]

/-- Keys are pressed as an event or a chord names them, since neither asks for the layout. -/
theorem Effect.Denotes.presses_iff {effect : Effect} {actions : List Action}
    {title : Option String} (h : effect.Denotes c actions title) :
    (∃ action ∈ actions, (t.event action).keyCode = some code) ↔ effect.Presses c code := by
  cases h with
  | app name => exact iff_of_false (not_sends_shell _) nofun
  | openTarget target => exact iff_of_false (not_sends_shell _) nofun
  | shell command => exact iff_of_false (not_sends_shell _) nofun
  | @emit chord press reads =>
    have htranslate := KeyPress.translate_of_ofChord reads
    constructor
    · rintro ⟨action, haction, hsends⟩
      obtain rfl := List.mem_singleton.mp haction
      obtain rfl : press.keyCode = code := by simpa [Target.event, htranslate] using hsends
      exact .chord reads
    · intro hpresses
      cases hpresses with
      | chord reads' =>
        obtain rfl := Except.ok.inj (reads.symm.trans reads')
        exact ⟨_, List.mem_singleton_self _, by simp [Target.event, htranslate]⟩
  | @send events _ each =>
    constructor
    · rintro ⟨action, haction, hsends⟩
      obtain ⟨event, hevent, hdenotes⟩ := exists_of_mem_right each haction
      obtain ⟨text, modifiers, rfl, rfl⟩ := hdenotes.keyCode_eq_some_iff.mp hsends
      exact .event hevent
    · intro hpresses
      cases hpresses with
      | event hevent =>
        obtain ⟨action, haction, hdenotes⟩ := exists_of_mem_left each hevent
        exact ⟨action, haction, hdenotes.keyCode_eq_some_iff.mpr ⟨_, _, rfl, rfl⟩⟩

/-- Commands and effects correspond in order. -/
theorem Body.Denotes.forall₂_effects {body : Body} {entry : Entry} (h : body.Denotes c entry) :
    List.Forall₂ (fun effect command => ∃ title, Effect.Denotes c effect command.actions title)
      body.effects entry.commandList := by
  have heffect {binding : Binding} {command : Command} (h : binding.Denotes c command) :
      ∃ title, Effect.Denotes c binding.effect command.actions title := by
    cases h with
    | intro effectDenotes => exact ⟨_, effectDenotes⟩
  cases h with
  | command denotes => exact .cons (heffect denotes) .nil
  | commands each =>
    rw [Body.effects, Entry.commandList, List.forall₂_map_left_iff, List.forall₂_map_right_iff]
    exact each.imp fun _ _ hpair => heffect hpair.2

/-- The layers that a configuration describes use the key codes that it uses. -/
theorem Denotes.uses_iff {l : Layers} (h : c.Denotes l) : t.Uses l code ↔ c.Uses t code := by
  constructor
  · intro huses
    cases huses with
    | root he =>
      obtain ⟨layer, hlayer, hkey, -⟩ := exists_of_mem_right h he
      obtain rfl := hkey
      exact .root hlayer
    | command he hbinding =>
      obtain ⟨layer, hlayer, -, hdenotes⟩ := exists_of_mem_right h he
      generalize hbody : layer.body = body at hdenotes
      cases hdenotes with
      | commands each =>
        obtain ⟨b, hb, hkey, -⟩ := exists_of_mem_right each hbinding
        obtain rfl := hkey
        exact .command hlayer hbody hb
    | press hcommand haction hsends =>
      obtain ⟨e, he, hmem⟩ := List.mem_flatMap.mp hcommand
      obtain ⟨layer, hlayer, -, hbody⟩ := exists_of_mem_right h he
      obtain ⟨effect, heffect, title, hdenotes⟩ := exists_of_mem_right hbody.forall₂_effects hmem
      exact .press hlayer heffect (hdenotes.presses_iff.mp ⟨_, haction, hsends⟩)
  · intro huses
    cases huses with
    | root hlayer =>
      obtain ⟨⟨key, entry⟩, he, rfl, -⟩ := exists_of_mem_left h hlayer
      exact .root he
    | @command layer bindings e hlayer hbody hbinding =>
      obtain ⟨⟨key, entry⟩, he, -, hdenotes⟩ := exists_of_mem_left h hlayer
      rw [hbody] at hdenotes
      cases hdenotes with
      | commands each =>
        obtain ⟨⟨commandKey, command⟩, hcommand, hkey, -⟩ := exists_of_mem_left each hbinding
        obtain rfl := hkey
        exact .command he hcommand
    | press hlayer heffect hpresses =>
      obtain ⟨e, he, -, hdenotes⟩ := exists_of_mem_left h hlayer
      obtain ⟨command, hcommand, title, heffectDenotes⟩ :=
        exists_of_mem_left hdenotes.forall₂_effects heffect
      obtain ⟨action, haction, hsends⟩ := (heffectDenotes.presses_iff (t := t)).mpr hpresses
      exact .press (Layers.mem_commandList he hcommand) haction hsends

/-! ### Empty key codes -/

/-- The names that keys and modifiers may stand for in the tables of a configuration. -/
def standIns (c : Config) : List String :=
  (c.aliases.key.entries ++ c.aliases.mod.entries ++ c.remap.entries).map Prod.snd

end Config

/-- A name stands for one that is not empty if it is not empty itself and no value is. -/
theorem OrderedMap.getD_find?_ne_empty {m : OrderedMap String} (h : ∀ e ∈ m.entries, e.2 ≠ "")
    {name : String} (hname : name ≠ "") : (m.find? name).getD name ≠ "" := by
  cases hfind : m.find? name with
  | none => exact hname
  | some value => exact h _ (Entries.mem_of_find? hfind)

/-- Writing keeps the values from being empty. -/
theorem Entries.insertAll_ne_empty {es l : Entries String} (hes : ∀ e ∈ es, e.2 ≠ "")
    (hl : ∀ e ∈ l, e.2 ≠ "") : ∀ e ∈ insertAll es l, e.2 ≠ "" := by
  intro e he
  exact (forall_mem_insertAll (P := fun _ => True) (Q := (· ≠ ""))
    (fun e he => ⟨trivial, hes e he⟩) (fun e he => ⟨trivial, hl e he⟩) e he).2

theorem Aliases.canonical_ne_empty {a : Aliases} (h : ∀ e ∈ a.entries, ¬ IsBlank e.2) :
    ∀ e ∈ a.canonical.entries, e.2 ≠ "" := by
  refine Entries.insertAll_ne_empty (fun e he => absurd he List.not_mem_nil) fun e he => ?_
  obtain ⟨d, hd, rfl⟩ := List.mem_map.mp he
  exact fun hempty => h d hd (canonical_eq_empty_iff.mp hempty)

theorem Layout.table_ne_empty (layout : Layout) : ∀ e ∈ layout.table.entries, e.2 ≠ "" := by
  cases layout with
  | qwerty => exact fun e he => absurd he List.not_mem_nil
  | colemak => exact (by decide : ∀ e ∈ Layout.colemakEntries, e.2 ≠ "")

/-- The place of a key is not empty if no remapped place is blank. -/
theorem Target.apply_ne_empty {c : Config} {t : Target} (ht : c.target = .ok t)
    (h : ∀ e ∈ c.remap.entries, ¬ IsBlank e.2) {key : String} (hkey : key ≠ "") :
    t.translation.apply key ≠ "" := by
  obtain ⟨layout, htable⟩ : ∃ layout : Layout, t.translation.table =
      layout.table.insertAll (Aliases.canonical c.remap).entries := by
    unfold Config.target Translation.ofLayout at ht
    cases hlayout : Layout.ofName? c.layout with
    | none => simp [hlayout, Except.map] at ht
    | some layout =>
      rw [hlayout] at ht
      obtain rfl := Except.ok.inj ht
      exact ⟨layout, rfl⟩
  refine OrderedMap.getD_find?_ne_empty ?_ hkey
  rw [htable]
  exact Entries.insertAll_ne_empty layout.table_ne_empty (Aliases.canonical_ne_empty h)

namespace KeyPress

theorem keyCode_mem_of_ofParts? {parts : List String} {translate : Bool} {press : KeyPress}
    (h : ofParts? parts translate = some press) : press.keyCode ∈ parts := by
  unfold ofParts? at h
  split at h
  · rename_i key hkey
    obtain rfl := Option.some.inj h
    exact (List.mem_filter.mp (hkey ▸ List.mem_singleton_self key)).1
  · simp at h

end KeyPress

namespace Config

variable {c : Config} {t : Target}

theorem Effect.Presses.ne_empty {effect : Effect} {code : String} (h : effect.Presses c code)
    (hlegible : effect.Legible c) (hkeys : ∀ e ∈ c.aliases.key.entries, ¬ IsBlank e.2)
    (hmodifiers : ∀ e ∈ c.aliases.mod.entries, ¬ IsBlank e.2) : code ≠ "" := by
  cases h with
  | @event events code modifiers mem =>
    have hcode : ¬ IsBlank code := (hlegible _ mem).1
    exact OrderedMap.getD_find?_ne_empty (Aliases.canonical_ne_empty hkeys)
      (mt canonical_eq_empty_iff.mp hcode)
  | chord reads =>
    obtain ⟨hpieces, hparts⟩ := KeyPress.ofChord_plus_eq_ok_iff.mp reads
    obtain ⟨piece, hpiece, hkey⟩ := List.mem_map.mp (KeyPress.keyCode_mem_of_ofParts? hparts)
    have hne : piece ≠ "" := fun h => hpieces (h ▸ hpiece)
    rw [← hkey]
    exact OrderedMap.getD_find?_ne_empty (Aliases.canonical_ne_empty hkeys)
      (OrderedMap.getD_find?_ne_empty (Aliases.canonical_ne_empty hmodifiers) hne)

theorem Body.Legible.effects {body : Body} (h : body.Legible c) {effect : Effect}
    (heffect : effect ∈ body.effects) : effect.Legible c := by
  cases body with
  | command binding =>
    obtain rfl := List.mem_singleton.mp heffect
    exact h
  | commands bindings =>
    obtain ⟨e, he, rfl⟩ := List.mem_map.mp heffect
    exact (h.1 e he).2

/-- A configuration without blank names in its tables uses no empty key code. -/
theorem not_uses_empty (hwell : c.WellFormed) (ht : c.target = .ok t)
    (h : ∀ text ∈ c.standIns, ¬ IsBlank text) : ¬ c.Uses t "" := by
  simp only [standIns, List.map_append, List.mem_append, List.mem_map] at h
  have hkeys : ∀ e ∈ c.aliases.key.entries, ¬ IsBlank e.2 :=
    fun e he => h e.2 (.inl (.inl ⟨e, he, rfl⟩))
  have hmodifiers : ∀ e ∈ c.aliases.mod.entries, ¬ IsBlank e.2 :=
    fun e he => h e.2 (.inl (.inr ⟨e, he, rfl⟩))
  have hremap : ∀ e ∈ c.remap.entries, ¬ IsBlank e.2 := fun e he => h e.2 (.inr ⟨e, he, rfl⟩)
  have hplace {text : String} (htext : ¬ IsBlank text) : t.translation.apply (c.keyOf text) ≠ "" :=
    Target.apply_ne_empty ht hremap (OrderedMap.getD_find?_ne_empty
      (Aliases.canonical_ne_empty hkeys) (mt canonical_eq_empty_iff.mp htext))
  intro huses
  -- the cases need a variable for the key code
  generalize hcode : "" = code at huses
  cases huses with
  | root hlayer => exact hplace (hwell.keys_named _ hlayer) hcode.symm
  | command hlayer hbody hbinding =>
    have hlegible := hwell.bodies_legible _ hlayer
    rw [hbody] at hlegible
    exact hplace (hlegible.1 _ hbinding).1 hcode.symm
  | press hlayer heffect hpresses =>
    have hlegible := (hwell.bodies_legible _ hlayer).effects heffect
    exact hpresses.ne_empty hlegible hkeys hmodifiers hcode.symm

/-- An output is made from the layers and the target of its configuration. -/
theorem exists_of_build {format title : Option String} {o : Output}
    (h : c.build format title = .ok o) : ∃ f l t, c.toLayers = .ok l ∧ c.target = .ok t ∧
      o = c.output title (t.rules l) f := by
  unfold build at h
  split at h
  · cases h
  · rename_i f _
    split at h
    · cases h
    · rename_i l hl
      split at h
      · cases h
      · rename_i t ht
        exact ⟨f, l, t, hl, ht, (Except.ok.inj h).symm⟩

/-- The function keys of an output are named. -/
theorem empty_notMem_functionKeys (c : Config) :
    "" ∉ c.outputFunctionKeys.flatMap Replacement.keyCodes := by
  unfold outputFunctionKeys
  cases c.functionKeys with
  | false => decide
  | true => decide

/-- **When an output has an empty key code.**  It has one if and only if its
configuration uses one, and that needs a blank name in one of the tables of the
configuration. -/
theorem emptyKeyCode_iff (c : Config) (format title : Option String) (o : Output)
    (h : c.build format title = .ok o) :
    ("" ∈ o.keyCodes ↔ ∃ t, c.target = .ok t ∧ c.Uses t "") ∧
      ((∀ text ∈ c.standIns, ¬ IsBlank text) → "" ∉ o.keyCodes) := by
  obtain ⟨f, l, t, hlayers, ht, rfl⟩ := exists_of_build h
  have hread := Vocabulary.reads_layers c
  rw [hlayers] at hread
  cases hread with
  | ok hwell hdenotes =>
    have hcodes : "" ∈ (c.output title (t.rules l) f).keyCodes ↔ c.Uses t "" := by
      rw [← hdenotes.uses_iff, ← Target.mem_keyCodes_rules_iff]
      cases f with
      | rules => exact Iff.rfl
      | profile =>
        exact List.mem_append.trans (or_iff_left (empty_notMem_functionKeys c))
    constructor
    · rw [hcodes]
      constructor
      · exact fun huses => ⟨t, ht, huses⟩
      · rintro ⟨t', ht', huses⟩
        obtain rfl := Except.ok.inj (ht.symm.trans ht')
        exact huses
    · intro hnamed
      rw [hcodes]
      exact not_uses_empty hwell ht hnamed

/-- The output for a configuration whose tables have no blank name. -/
theorem emptyKeyCode_iff_browser : ∃ o, browserAndMusic.build (some "rules") none = .ok o ∧
    "" ∉ o.keyCodes := by
  have hbuilds : (browserAndMusic.build (some "rules") none).toOption.isSome := by decide +kernel
  cases hbuild : browserAndMusic.build (some "rules") none with
  | error e => simp [hbuild, Except.toOption] at hbuilds
  | ok o =>
    exact ⟨o, rfl, (emptyKeyCode_iff browserAndMusic (some "rules") none o hbuild).2
      (by decide +kernel)⟩

/-- Three tables with a blank name in each: a root key that is an alias, a chord with the alias of a
modifier, and a remapped root key. -/
def blankStandIns : Config where
  aliases.key := ⟨[("a", " ")], by decide⟩
  aliases.mod := ⟨[("b", "")], by decide⟩
  remap := ⟨[("c", "")], by decide⟩
  layers := [⟨"a", .command ⟨.shell "x", none⟩⟩, ⟨"o", .command ⟨.emit "shift+b", none⟩⟩,
    ⟨"c", .command ⟨.shell "x", none⟩⟩]

/-- It is read from a value tree, and it has an output, in which each of the three names has led to
an empty key code. -/
theorem emptyKeyCode_blankStandIns : ∃ v o, schema.validate v = .ok blankStandIns ∧
    blankStandIns.build (some "rules") none = .ok o ∧ o.keyCodes = ["", "o", "", ""] := by
  have hvalidates : (schema.validate (blankStandIns.toValue .full)).toOption =
      some blankStandIns := by
    decide +kernel
  have hcodes : (blankStandIns.build (some "rules") none).toOption.map Output.keyCodes =
      some ["", "o", "", ""] := by
    decide +kernel
  cases hbuild : blankStandIns.build (some "rules") none with
  | error e => simp [hbuild, Except.toOption] at hcodes
  | ok o =>
    cases hvalidate : schema.validate (blankStandIns.toValue .full) with
    | error r => simp [hvalidate, Except.toOption] at hvalidates
    | ok c =>
      simp only [hvalidate, hbuild, Except.toOption, Option.map_some, Option.some.injEq]
        at hvalidates hcodes
      exact ⟨_, o, hvalidates ▸ hvalidate, rfl, hcodes⟩

end Config

end KeyLayers
