import Mathlib.Data.List.Duplicate
import Mathlib.Data.List.Forall2
import KeyLayers.Layers.OfConfig

/-!
# What a configuration means

Which configurations describe layers, and which layers they describe, said on
its own and not by how they are read.  A text stands for the key that its
canonical spelling, looked up once among the aliases, names; a configuration is
well formed when every text that has to stand for something does so and no two
keys that must differ are the same.  Its meaning then follows its structure,
entry by entry and in order.

## Main definitions

* `IsBlank`, `Config.keyOf`, `Config.modifierName` — what a text stands for.
* `Config.WellFormed` — the configurations that describe layers.
* `Config.Denotes` — the layers that a configuration describes.
* `Config.Fault` — the errors that name something that is wrong.

## Main results

* `Config.Denotes.unique` — a configuration describes at most one list of layers.
-/

namespace KeyLayers

/-! ### Lists that correspond element by element -/

section Correspondence

variable {α β : Type} {R : α → β → Prop} {as : List α} {bs : List β}

/-- What stands for elements of a list comes from one of them. -/
theorem exists_of_mem_right (h : List.Forall₂ R as bs) {b : β} (hb : b ∈ bs) :
    ∃ a ∈ as, R a b := by
  induction h with
  | nil => exact absurd hb List.not_mem_nil
  | cons hR _ ih =>
    rcases List.mem_cons.mp hb with rfl | hb
    · exact ⟨_, List.mem_cons_self, hR⟩
    · obtain ⟨a, ha, hR'⟩ := ih hb
      exact ⟨a, List.mem_cons_of_mem _ ha, hR'⟩

/-- Each element of a list has something that stands for it. -/
theorem exists_of_mem_left (h : List.Forall₂ R as bs) {a : α} (ha : a ∈ as) :
    ∃ b ∈ bs, R a b :=
  exists_of_mem_right h.flip ha

end Correspondence

/-! ### What a text stands for -/

/-- Nothing is left of a text without the blanks at its ends. -/
def IsBlank (text : String) : Prop := Text.strip text.toList = []

instance : DecidablePred IsBlank := fun text =>
  inferInstanceAs (Decidable (Text.strip text.toList = []))

namespace Config

/-- The key that a text stands for. -/
def keyOf (c : Config) (text : String) : KeyCode :=
  c.aliases.key.canonical.resolve (canonical text)

/-- The name of the modifier that a text stands for, if there is such a modifier. -/
def modifierName (c : Config) (text : String) : String :=
  c.aliases.mod.canonical.resolve (canonical text)

/-- A text stands for a modifier. -/
def NamesModifier (c : Config) (text : String) : Prop :=
  ∃ m : Modifier, m.name = c.modifierName text

/-! ### Well-formed configurations -/

/-- The texts of an event stand for a key and for modifiers. -/
def Event.Legible (c : Config) : Event → Prop
  | .key code modifiers =>
    ¬ IsBlank code ∧ ∀ text ∈ modifiers, ¬ IsBlank text ∧ c.NamesModifier text
  | .consumerKey _ => True
  | .vendorKey _ => True
  | .shell _ => True

/-- A chord can be read, and so can every event. -/
def Effect.Legible (c : Config) : Effect → Prop
  | .app _ => True
  | .openTarget _ => True
  | .shell _ => True
  | .emit chord =>
    ∃ press, KeyPress.ofChord c.aliases.key c.aliases.mod Chord.plus false chord = .ok press
  | .send events => ∀ event ∈ events, event.Legible c

/-- The keys of a sublayer are not blank and stand for different keys, and every binding can be
read. -/
def Body.Legible (c : Config) : Body → Prop
  | .command binding => binding.effect.Legible c
  | .commands bindings =>
    (∀ e ∈ bindings.entries, ¬ IsBlank e.1 ∧ e.2.effect.Legible c) ∧
      (bindings.entries.map fun e => c.keyOf e.1).Nodup

/-- The configurations that describe layers. -/
structure WellFormed (c : Config) : Prop where
  /-- No root key is blank. -/
  keys_named : ∀ layer ∈ c.layers, ¬ IsBlank layer.key
  /-- Different layers have different root keys. -/
  keys_distinct : (c.layers.map fun layer => c.keyOf layer.key).Nodup
  /-- What the root keys are bound to can be read. -/
  bodies_legible : ∀ layer ∈ c.layers, layer.body.Legible c

/-! ### Meanings -/

/-- The action that an event stands for. -/
inductive Event.Denotes (c : Config) : Event → Action → Prop
  /-- A key with the modifiers that the texts name, in order. -/
  | key {code : String} {modifiers : List String} {ms : List Modifier}
      (names : List.Forall₂ (fun text m => Modifier.name m = c.modifierName text) modifiers ms) :
      Denotes c (.key code modifiers) (.keyPress ⟨c.keyOf code, ms, false⟩)
  /-- A media key. -/
  | consumerKey (code : String) : Denotes c (.consumerKey code) (.consumerKey code)
  /-- A key of one vendor. -/
  | vendorKey (code : String) : Denotes c (.vendorKey code) (.vendorKey code)
  /-- A shell command. -/
  | shell (command : String) : Denotes c (.shell command) (.shell command)

/-- The actions that an effect stands for, and the description that comes with it. -/
inductive Effect.Denotes (c : Config) : Effect → List Action → Option String → Prop
  /-- The application is opened by its name. -/
  | app (name : String) : Denotes c (.app name) [.shell ("open -a '" ++ name ++ ".app'")]
      (some ("Open -a '" ++ name ++ ".app'"))
  /-- The file or address is opened. -/
  | openTarget (target : String) :
      Denotes c (.openTarget target) [.shell ("open " ++ target)] (some ("Open " ++ target))
  /-- The command is run. -/
  | shell (command : String) : Denotes c (.shell command) [.shell command] none
  /-- The chord is sent. -/
  | emit {chord : String} {press : KeyPress}
      (reads : KeyPress.ofChord c.aliases.key c.aliases.mod Chord.plus false chord = .ok press) :
      Denotes c (.emit chord) [.keyPress press] none
  /-- Each event gives one action. -/
  | send {events : List Event} {actions : List Action}
      (each : List.Forall₂ (Event.Denotes c) events actions) :
      Denotes c (.send events) actions none

/-- The command that a binding stands for: its own description comes first. -/
inductive Binding.Denotes (c : Config) : Binding → Command → Prop
  /-- The actions are those of the effect. -/
  | intro {effect : Effect} {actions : List Action} {title description : Option String}
      (effectDenotes : effect.Denotes c actions title) :
      Denotes c ⟨effect, description⟩ ⟨actions, description.or title⟩

/-- The entry that a body stands for. -/
inductive Body.Denotes (c : Config) : Body → Entry → Prop
  /-- A single binding gives a command. -/
  | command {binding : Binding} {command : Command} (denotes : binding.Denotes c command) :
      Denotes c (.command binding) (.leaf command)
  /-- Bindings give a sublayer, with one command for each of them, in order. -/
  | commands {bindings : OrderedMap Binding} {commands : OrderedMap Command}
      (each : List.Forall₂ (fun b e => e.1 = c.keyOf b.1 ∧ Binding.Denotes c b.2 e.2)
        bindings.entries commands.entries) :
      Denotes c (.commands bindings) (.sublayer commands)

/-- The layers that a configuration describes have one entry for each of its layers, in order. -/
def Denotes (c : Config) (l : Layers) : Prop :=
  List.Forall₂ (fun layer e => e.1 = c.keyOf (Layer.key layer) ∧ layer.body.Denotes c e.2)
    c.layers l.entries.entries

/-! ### Meanings are determined -/

section Unique

variable {c : Config}

theorem Event.Denotes.unique : Relator.RightUnique (Event.Denotes c) := by
  intro event a a' h h'
  cases h with
  | key names =>
    cases h' with
    | key names' =>
      have hmodifier : Relator.RightUnique fun text m => Modifier.name m = c.modifierName text :=
        fun _ _ _ hm hm' => Modifier.name_injective (hm.trans hm'.symm)
      rw [List.right_unique_forall₂' hmodifier names names']
  | consumerKey code => cases h'; rfl
  | vendorKey code => cases h'; rfl
  | shell command => cases h'; rfl

theorem Effect.Denotes.unique {effect : Effect} {actions actions' : List Action}
    {title title' : Option String} (h : effect.Denotes c actions title)
    (h' : effect.Denotes c actions' title') : actions = actions' ∧ title = title' := by
  cases h with
  | app name => cases h'; exact ⟨rfl, rfl⟩
  | openTarget target => cases h'; exact ⟨rfl, rfl⟩
  | shell command => cases h'; exact ⟨rfl, rfl⟩
  | emit reads =>
    cases h' with
    | emit reads' =>
      rw [reads] at reads'
      cases reads'
      exact ⟨rfl, rfl⟩
  | send each =>
    cases h' with
    | send each' => exact ⟨List.right_unique_forall₂' Event.Denotes.unique each each', rfl⟩

theorem Binding.Denotes.unique : Relator.RightUnique (Binding.Denotes c) := by
  intro binding command command' h h'
  cases h with
  | intro effectDenotes =>
    cases h' with
    | intro effectDenotes' =>
      obtain ⟨rfl, rfl⟩ := effectDenotes.unique effectDenotes'
      rfl

theorem Body.Denotes.unique : Relator.RightUnique (Body.Denotes c) := by
  intro body entry entry' h h'
  cases h with
  | command denotes =>
    cases h' with
    | command denotes' => rw [Binding.Denotes.unique denotes denotes']
  | commands each =>
    cases h' with
    | commands each' =>
      have hpair : Relator.RightUnique fun (b : String × Binding) (e : String × Command) =>
          e.1 = c.keyOf b.1 ∧ Binding.Denotes c b.2 e.2 := fun _ _ _ he he' =>
        Prod.ext (he.1.trans he'.1.symm) (Binding.Denotes.unique he.2 he'.2)
      rw [OrderedMap.ext (List.right_unique_forall₂' hpair each each')]

/-- A configuration describes at most one list of layers. -/
theorem Denotes.unique {l l' : Layers} (h : c.Denotes l) (h' : c.Denotes l') : l = l' := by
  have hentry : Relator.RightUnique fun (layer : Layer) (e : String × Entry) =>
      e.1 = c.keyOf layer.key ∧ layer.body.Denotes c e.2 := fun _ _ _ he he' =>
    Prod.ext (he.1.trans he'.1.symm) (Body.Denotes.unique he.2 he'.2)
  have hentries : l.entries = l'.entries :=
    OrderedMap.ext (List.right_unique_forall₂' hentry h h')
  obtain ⟨entries⟩ := l
  exact congrArg Layers.mk hentries

end Unique

/-! ### Faults -/

/-- What can be wrong with an event. -/
inductive Event.Fault (c : Config) : Event → SpellingError → Prop
  /-- The key is blank. -/
  | blankCode {code : String} {modifiers : List String} (blank : IsBlank code) :
      Fault c (.key code modifiers) .blankKey
  /-- A modifier is blank. -/
  | blankModifier {code text : String} {modifiers : List String} (mem : text ∈ modifiers)
      (blank : IsBlank text) : Fault c (.key code modifiers) .blankKey
  /-- A text that should stand for a modifier does not. -/
  | unknownModifier {code text : String} {modifiers : List String} (mem : text ∈ modifiers)
      (unknown : ¬ c.NamesModifier text) :
      Fault c (.key code modifiers) (.unknownModifier (c.modifierName text))

/-- What can be wrong with an effect. -/
inductive Effect.Fault (c : Config) : Effect → SpellingError → Prop
  /-- The chord cannot be read. -/
  | emit {chord : String} {e : SpellingError}
      (reads : KeyPress.ofChord c.aliases.key c.aliases.mod Chord.plus false chord = .error e) :
      Fault c (.emit chord) e
  /-- Something is wrong with an event. -/
  | send {events : List Event} {event : Event} {e : SpellingError} (mem : event ∈ events)
      (fault : event.Fault c e) : Fault c (.send events) e

/-- What can be wrong with what the root key `key` is bound to. -/
inductive Body.Fault (c : Config) (key : KeyCode) : Body → ConfigError → Prop
  /-- Something is wrong with the single binding. -/
  | command {binding : Binding} {e : SpellingError} (fault : binding.effect.Fault c e) :
      Fault c key (.command binding) (.spelling e)
  /-- A key of the sublayer is blank. -/
  | blankKey {bindings : OrderedMap Binding} {b : String × Binding} (mem : b ∈ bindings.entries)
      (blank : IsBlank b.1) : Fault c key (.commands bindings) (.spelling .blankKey)
  /-- Two keys of the sublayer are the same. -/
  | duplicateKey {bindings : OrderedMap Binding} {commandKey : KeyCode}
      (duplicate : (bindings.entries.map fun b => c.keyOf b.1).Duplicate commandKey) :
      Fault c key (.commands bindings) (.duplicateCommand commandKey key)
  /-- Something is wrong with a binding of the sublayer. -/
  | binding {bindings : OrderedMap Binding} {b : String × Binding} {e : SpellingError}
      (mem : b ∈ bindings.entries) (fault : b.2.effect.Fault c e) :
      Fault c key (.commands bindings) (.spelling e)

/-- What can be wrong with a configuration. -/
inductive Fault (c : Config) : ConfigError → Prop
  /-- A root key is blank. -/
  | blankKey {layer : Layer} (mem : layer ∈ c.layers) (blank : IsBlank layer.key) :
      Fault c (.spelling .blankKey)
  /-- Two root keys are the same. -/
  | duplicateKey {key : KeyCode}
      (duplicate : (c.layers.map fun layer => c.keyOf layer.key).Duplicate key) :
      Fault c (.duplicateLayer key)
  /-- Something is wrong with what a root key is bound to. -/
  | body {layer : Layer} {e : ConfigError} (mem : layer ∈ c.layers)
      (fault : layer.body.Fault c (c.keyOf layer.key) e) : Fault c e

end Config

end KeyLayers
