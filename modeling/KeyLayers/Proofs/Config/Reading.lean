import KeyLayers.Proofs.Config.Meaning
import KeyLayers.Proofs.Text.Spelling

/-!
# Configurations are read as they are meant

Reading a configuration succeeds exactly on the well-formed ones, gives the
layers that the configuration denotes, with nothing lost or reordered, and fails
on the others with an error that names something which is really wrong.

One predicate says all three of a single reading, `Reads`, and each function of
the reader has one lemma of that form, which follows the function.  The two
loops over keyed lists, over the layers and over the bindings of a sublayer,
share one lemma.

## Main definitions

* `Reads` — a reading is right about legibility, meaning and fault.

## Main results

* `Vocabulary.reads_keyed` — the loop over the layers and the one over the bindings of a sublayer.
* `Vocabulary.reads_layers` — the reader of a whole configuration.
* `Config.toLayers_spec` — **which configurations are read, and as what.**
-/

namespace KeyLayers

variable {ε ε' α β : Type}

/-! ### Right readings -/

/-- `Reads P D E r` says that `r` gives a value with `D` if `P` holds, and an error with `E` if it
does not. -/
inductive Reads (P : Prop) (D : α → Prop) (E : ε → Prop) : Except ε α → Prop
  /-- The reading succeeds. -/
  | ok {a : α} (legible : P) (means : D a) : Reads P D E (.ok a)
  /-- The reading fails. -/
  | error {e : ε} (illegible : ¬ P) (fault : E e) : Reads P D E (.error e)

namespace Reads

variable {P Q : Prop} {D : α → Prop} {D' : β → Prop} {E : ε → Prop} {E' : ε' → Prop}

/-- The same reading under another description. -/
theorem congr {D' : α → Prop} {E' : ε → Prop} {r : Except ε α} (h : Reads P D E r) (hP : P ↔ Q)
    (hD : ∀ a, D a → D' a) (hE : ∀ e, E e → E' e) : Reads Q D' E' r := by
  cases h with
  | ok hp hd => exact .ok (hP.mp hp) (hD _ hd)
  | error hp he => exact .error (fun hq => hp (hP.mpr hq)) (hE _ he)

theorem map {r : Except ε α} {f : α → β} (h : Reads P D E r) (hD : ∀ a, D a → D' (f a)) :
    Reads P D' E (r.map f) := by
  cases h with
  | ok hp hd => exact .ok hp (hD _ hd)
  | error hp he => exact .error hp he

theorem mapError {r : Except ε α} {f : ε → ε'} (h : Reads P D E r) (hE : ∀ e, E e → E' (f e)) :
    Reads P D E' (r.mapError f) := by
  cases h with
  | ok hp hd => exact .ok hp hd
  | error hp he => exact .error hp (hE _ he)

theorem bind {E' : ε → Prop} {r : Except ε α} {f : α → Except ε β} (h : Reads P D E r)
    (hE : ∀ e, E e → E' e) (hf : ∀ a, D a → Reads Q D' E' (f a)) :
    Reads (P ∧ Q) D' E' (r.bind f) := by
  cases h with
  | ok hp hd =>
    cases hfa : f _ with
    | ok b =>
      have hb := hf _ hd
      rw [hfa] at hb
      cases hb with
      | ok hq hd' => simpa [Except.bind, hfa] using Reads.ok (E := E') ⟨hp, hq⟩ hd'
    | error e =>
      have hb := hf _ hd
      rw [hfa] at hb
      cases hb with
      | error hq he => simpa [Except.bind, hfa] using Reads.error (D := D') (fun h => hq h.2) he
  | error hp he => exact .error (fun h => hp h.1) (hE _ he)

/-- A list that is read element by element. -/
theorem list {f : α → Except ε β} {F : List α → Except ε (List β)} (hnil : F [] = .ok [])
    (hcons : ∀ a as, F (a :: as) = (f a).bind fun b => (F as).map (b :: ·))
    {P : α → Prop} {D : α → β → Prop} {E : α → ε → Prop}
    (hf : ∀ a, Reads (P a) (D a) (E a) (f a)) (as : List α) :
    Reads (∀ a ∈ as, P a) (List.Forall₂ D as) (fun e => ∃ a ∈ as, E a e) (F as) := by
  induction as with
  | nil =>
    rw [hnil]
    exact .ok (fun _ h => absurd h List.not_mem_nil) .nil
  | cons a as ih =>
    rw [hcons]
    have hcells : (∀ b ∈ a :: as, P b) ↔ P a ∧ ∀ b ∈ as, P b := List.forall_mem_cons
    rw [hcells]
    refine bind (hf a) ?_ ?_
    · exact fun e he => ⟨a, List.mem_cons_self, he⟩
    · intro b hb
      refine (ih.map fun bs hbs => List.Forall₂.cons hb hbs).congr Iff.rfl (fun _ h => h) ?_
      rintro e ⟨c, hc, he⟩
      exact ⟨c, List.mem_cons_of_mem _ hc, he⟩

end Reads

/-! ### Keys and modifiers -/

namespace Vocabulary

variable (c : Config)

theorem reads_key (text : String) : Reads (¬ IsBlank text) (· = c.keyOf text)
    (fun e => e = .blankKey ∧ IsBlank text) ((ofConfig c).key text) := by
  unfold key KeyCode.resolve KeyCode.ofText
  by_cases h : canonical text = ""
  · have hblank : IsBlank text := canonical_eq_empty_iff.mp h
    rw [if_pos h]
    exact .error (fun hnot => hnot hblank) ⟨rfl, hblank⟩
  · have hnot : ¬ IsBlank text := fun hblank => h (canonical_eq_empty_iff.mpr hblank)
    rw [if_neg h]
    exact .ok hnot rfl

theorem reads_ofName (name : String) : Reads (∃ m : Modifier, m.name = name)
    (fun m => m.name = name) (· = .unknownModifier name) (Modifier.ofName name) := by
  unfold Modifier.ofName
  cases h : Modifier.ofName? name with
  | none =>
    have hnone := Modifier.ofName?_eq_none_iff.mp h
    exact .error (fun ⟨m, hm⟩ => hnone m hm) rfl
  | some m =>
    have hname := Modifier.ofName?_eq_some_iff.mp h
    exact .ok ⟨m, hname⟩ hname

/-- What can be wrong with a text that should stand for a modifier. -/
def ModifierFault (text : String) (e : SpellingError) : Prop :=
  (IsBlank text ∧ e = .blankKey) ∨
    ¬ c.NamesModifier text ∧ e = .unknownModifier (c.modifierName text)

theorem reads_modifier (text : String) :
    Reads (¬ IsBlank text ∧ c.NamesModifier text) (fun m => m.name = c.modifierName text)
      (ModifierFault c text) ((ofConfig c).modifier text) := by
  unfold modifier KeyCode.resolve KeyCode.ofText
  by_cases h : canonical text = ""
  · have hblank : IsBlank text := canonical_eq_empty_iff.mp h
    rw [if_pos h]
    exact .error (fun hnot => hnot.1 hblank) (Or.inl ⟨hblank, rfl⟩)
  · have hnot : ¬ IsBlank text := fun hblank => h (canonical_eq_empty_iff.mpr hblank)
    rw [if_neg h]
    change Reads _ _ _ (Modifier.ofName (c.modifierName text))
    cases hm : Modifier.ofName (c.modifierName text) with
    | ok m =>
      have hread := reads_ofName (c.modifierName text)
      rw [hm] at hread
      cases hread with
      | ok hnames hname => exact .ok ⟨hnot, hnames⟩ hname
    | error e =>
      have hread := reads_ofName (c.modifierName text)
      rw [hm] at hread
      cases hread with
      | error hnames he => exact .error (fun h => hnames h.2) (Or.inr ⟨hnames, he⟩)

theorem reads_modifierList (texts : List String) :
    Reads (∀ text ∈ texts, ¬ IsBlank text ∧ c.NamesModifier text)
      (List.Forall₂ (fun text m => Modifier.name m = c.modifierName text) texts)
      (fun e => ∃ text ∈ texts, ModifierFault c text e) ((ofConfig c).modifierList texts) :=
  Reads.list (F := (ofConfig c).modifierList) rfl (fun _ _ => rfl) (reads_modifier c) texts

/-! ### Commands -/

theorem reads_action (event : Config.Event) :
    Reads (event.Legible c) (event.Denotes c) (event.Fault c) ((ofConfig c).action event) := by
  cases event with
  | key code modifiers =>
    rw [action]
    refine Reads.bind (reads_key c code) ?_ ?_
    · rintro e ⟨rfl, hblank⟩
      exact .blankCode hblank
    · rintro _ rfl
      refine ((reads_modifierList c modifiers).map fun ms hms => .key hms).congr Iff.rfl
        (fun _ h => h) ?_
      rintro e ⟨text, hmem, ⟨hblank, rfl⟩ | ⟨hunknown, rfl⟩⟩
      · exact .blankModifier hmem hblank
      · exact .unknownModifier hmem hunknown
  | consumerKey code => exact .ok trivial (.consumerKey code)
  | vendorKey code => exact .ok trivial (.vendorKey code)
  | shell command => exact .ok trivial (.shell command)

theorem reads_actions (events : List Config.Event) :
    Reads (∀ event ∈ events, event.Legible c) (List.Forall₂ (Config.Event.Denotes c) events)
      (fun e => ∃ event ∈ events, event.Fault c e) ((ofConfig c).actions events) :=
  Reads.list (F := (ofConfig c).actions) rfl (fun _ _ => rfl) (reads_action c) events

/-- The words that open an application, as they are put together and in one piece. -/
theorem openApp_eq (name : String) : Command.openApp name =
    ⟨[.shell ("open -a '" ++ name ++ ".app'")], some ("Open -a '" ++ name ++ ".app'")⟩ := by
  have hopen : "open " ++ ("-a '" ++ name ++ ".app'") = "open -a '" ++ name ++ ".app'" := by
    rw [← String.append_assoc, ← String.append_assoc]
    rfl
  have htitle : "Open " ++ ("-a '" ++ name ++ ".app'") = "Open -a '" ++ name ++ ".app'" := by
    rw [← String.append_assoc, ← String.append_assoc]
    rfl
  rw [Command.openApp, Command.openTarget, Command.shell, hopen, htitle]

theorem reads_effect (effect : Config.Effect) :
    Reads (effect.Legible c) (fun command => effect.Denotes c command.actions command.description)
      (effect.Fault c) ((ofConfig c).effect effect) := by
  cases effect with
  | app name =>
    rw [Vocabulary.effect, openApp_eq]
    exact .ok trivial (.app name)
  | openTarget target => exact .ok trivial (.openTarget target)
  | shell command => exact .ok trivial (.shell command)
  | emit chord =>
    -- the vocabulary has canonical aliases, and a chord reads the same under them
    change Reads _ _ _ ((KeyPress.ofChord c.aliases.key.canonical c.aliases.mod.canonical
      Chord.plus false chord).map _)
    rw [KeyPress.ofChord_canonical]
    cases h : KeyPress.ofChord c.aliases.key c.aliases.mod Chord.plus false chord with
    | ok press => exact .ok ⟨press, h⟩ (.emit h)
    | error e =>
      refine .error ?_ (.emit h)
      rintro ⟨press, hpress⟩
      rw [h] at hpress
      cases hpress
  | send events =>
    refine ((reads_actions c events).map fun actions h => .send h).congr Iff.rfl (fun _ h => h) ?_
    rintro e ⟨event, hmem, hfault⟩
    exact .send hmem hfault

theorem reads_command (binding : Config.Binding) :
    Reads (binding.effect.Legible c) (binding.Denotes c) (binding.effect.Fault c)
      ((ofConfig c).command binding) := by
  refine (reads_effect c binding.effect).map fun command h => ?_
  exact .intro h

/-! ### Keyed lists -/

section Keyed

variable {name : α → String} {duplicate : KeyCode → ConfigError} {P : α → Prop}
  {D : α → β → Prop} {E : α → ConfigError → Prop} {taken : List KeyCode}

/-- The elements come under keys that are not blank and differ from each other and from those of
`taken`, and can be read themselves. -/
def KeyedLegible (name : α → String) (P : α → Prop) (taken : List KeyCode) (as : List α) : Prop :=
  (∀ a ∈ as, ¬ IsBlank (name a) ∧ P a) ∧ (taken ++ as.map fun a => c.keyOf (name a)).Nodup

/-- Each entry stands for an element: it has its key, and its value is what the element means. -/
def KeyedDenotes (name : α → String) (D : α → β → Prop) : List α → Entries β → Prop :=
  List.Forall₂ fun a e => e.1 = c.keyOf (name a) ∧ D a e.2

/-- What can be wrong with elements that come under keys, after those of `taken`. -/
inductive KeyedFault (name : α → String) (duplicate : KeyCode → ConfigError)
    (E : α → ConfigError → Prop) (taken : List KeyCode) (as : List α) : ConfigError → Prop
  /-- A key is blank. -/
  | blank {a : α} (mem : a ∈ as) (blank : IsBlank (name a)) :
      KeyedFault name duplicate E taken as (.spelling .blankKey)
  /-- A key comes twice. -/
  | duplicate {key : KeyCode}
      (twice : (taken ++ as.map fun a => c.keyOf (name a)).Duplicate key) :
      KeyedFault name duplicate E taken as (duplicate key)
  /-- Something is wrong with an element. -/
  | element {a : α} {e : ConfigError} (mem : a ∈ as) (fault : E a e) :
      KeyedFault name duplicate E taken as e

theorem keyedLegible_cons {a : α} {as : List α} :
    KeyedLegible c name P taken (a :: as) ↔
      ¬ IsBlank (name a) ∧ c.keyOf (name a) ∉ taken ∧ P a ∧
        KeyedLegible c name P (taken ++ [c.keyOf (name a)]) as := by
  unfold KeyedLegible
  rw [List.forall_mem_cons, List.map_cons, List.append_assoc, List.singleton_append]
  constructor
  · rintro ⟨⟨⟨hnot, ha⟩, has⟩, hnodup⟩
    have hnew : c.keyOf (name a) ∉ taken := fun h =>
      (List.nodup_append.mp hnodup).2.2 _ h _ List.mem_cons_self rfl
    exact ⟨hnot, hnew, ha, has, hnodup⟩
  · rintro ⟨hnot, -, ha, has, hnodup⟩
    exact ⟨⟨⟨hnot, ha⟩, has⟩, hnodup⟩

theorem KeyedFault.cons {a : α} {as : List α} {e : ConfigError}
    (h : KeyedFault c name duplicate E (taken ++ [c.keyOf (name a)]) as e) :
    KeyedFault c name duplicate E taken (a :: as) e := by
  cases h with
  | blank mem blank => exact .blank (List.mem_cons_of_mem _ mem) blank
  | duplicate twice =>
    rw [List.append_assoc, List.singleton_append] at twice
    exact .duplicate twice
  | element mem fault => exact .element (List.mem_cons_of_mem _ mem) fault

/-- A key that is taken comes twice. -/
theorem duplicate_of_mem {a : α} (as : List α) (h : c.keyOf (name a) ∈ taken) :
    (taken ++ (a :: as).map fun d => c.keyOf (name d)).Duplicate (c.keyOf (name a)) := by
  have hfirst : [c.keyOf (name a)].Sublist taken := List.singleton_sublist.mpr h
  have hsecond : [c.keyOf (name a)].Sublist ((a :: as).map fun d => c.keyOf (name d)) :=
    List.singleton_sublist.mpr List.mem_cons_self
  exact List.duplicate_iff_sublist.mpr (hfirst.append hsecond)

/-- Both loops over keyed lists: each element is read under its key, after those of `m`, and
refused if the key is taken. -/
theorem reads_keyed (name : α → String) (duplicate : KeyCode → ConfigError)
    (body : KeyCode → α → Except ConfigError β)
    {F : OrderedMap β → List α → Except ConfigError (OrderedMap β)} (hnil : ∀ m, F m [] = .ok m)
    (hcons : ∀ m a as, F m (a :: as) =
      (((ofConfig c).key (name a)).mapError .spelling).bind fun key =>
        if m.contains key then .error (duplicate key)
        else (body key a).bind fun b => F (m.insert key b) as)
    (hbody : ∀ a, Reads (P a) (D a) (E a) (body (c.keyOf (name a)) a))
    (as : List α) (m : OrderedMap β) :
    Reads (KeyedLegible c name P m.keys as)
      (fun m' => ∃ new, m'.entries = m.entries ++ new ∧ KeyedDenotes c name D as new)
      (KeyedFault c name duplicate E m.keys as) (F m as) := by
  induction as generalizing m with
  | nil =>
    rw [hnil]
    refine .ok ⟨fun _ h => absurd h List.not_mem_nil, ?_⟩ ⟨[], by simp, .nil⟩
    rw [List.map_nil, List.append_nil]
    exact m.nodup
  | cons a as ih =>
    have hkey : Reads (¬ IsBlank (name a)) (· = c.keyOf (name a))
        (fun e => e = ConfigError.spelling .blankKey ∧ IsBlank (name a))
        (((ofConfig c).key (name a)).mapError ConfigError.spelling) :=
      (reads_key c (name a)).mapError fun e he => ⟨congrArg _ he.1, he.2⟩
    rw [hcons, keyedLegible_cons]
    -- the key is read first, then looked up, then the element is read, then the rest
    refine Reads.bind hkey ?_ ?_
    · rintro _ ⟨rfl, hblank⟩
      exact .blank List.mem_cons_self hblank
    · rintro _ rfl
      by_cases htaken : m.contains (c.keyOf (name a))
      · have hmem : c.keyOf (name a) ∈ m.keys := OrderedMap.contains_iff.mp htaken
        rw [if_pos htaken]
        exact .error (fun h => h.1 hmem) (.duplicate (duplicate_of_mem c as hmem))
      · have hfree : c.keyOf (name a) ∉ m.keys := fun h => htaken (OrderedMap.contains_iff.mpr h)
        rw [if_neg htaken, and_iff_right hfree]
        refine Reads.bind (hbody a) (fun e he => .element List.mem_cons_self he) fun b hb => ?_
        -- the rest is read after a map that has the new key at its end
        have hkeys : (m.insert (c.keyOf (name a)) b).keys = m.keys ++ [c.keyOf (name a)] := by
          rw [OrderedMap.keys_insert, if_neg hfree]
        have hentries : (m.insert (c.keyOf (name a)) b).entries =
            m.entries ++ [(c.keyOf (name a), b)] := Entries.insert_of_notMem hfree b
        rw [← hkeys]
        refine (ih (m.insert (c.keyOf (name a)) b)).congr Iff.rfl ?_ fun e he => ?_
        · rintro m' ⟨new, hm', hnew⟩
          refine ⟨(c.keyOf (name a), b) :: new, ?_, .cons ⟨rfl, hb⟩ hnew⟩
          rw [hm', hentries, List.append_assoc, List.singleton_append]
        · rw [hkeys] at he
          exact he.cons

end Keyed

/-! ### Layers -/

theorem commands_cons (w : Vocabulary) (layer : KeyCode) (m : OrderedMap Command)
    (b : String × Config.Binding) (bindings : Entries Config.Binding) :
    w.commands layer m (b :: bindings) =
      ((w.key b.1).mapError .spelling).bind fun key =>
        if m.contains key then .error (.duplicateCommand key layer)
        else ((w.command b.2).mapError .spelling).bind fun command =>
          w.commands layer (m.insert key command) bindings := by
  rw [commands]
  cases w.key b.1 with
  | error e => rfl
  | ok key =>
    cases w.command b.2 with
    | error e => rfl
    | ok command => rfl

theorem reads_commands (layer : KeyCode) (bindings : Entries Config.Binding) :
    Reads (KeyedLegible c Prod.fst (fun b => b.2.effect.Legible c) [] bindings)
      (fun m => KeyedDenotes c Prod.fst (fun b => Config.Binding.Denotes c b.2) bindings m.entries)
      (KeyedFault c Prod.fst (ConfigError.duplicateCommand · layer)
        (fun b e => ∃ e', e = .spelling e' ∧ b.2.effect.Fault c e') [] bindings)
      ((ofConfig c).commands layer .empty bindings) := by
  have hcommand : ∀ b : String × Config.Binding, Reads (b.2.effect.Legible c) (b.2.Denotes c)
      (fun e => ∃ e', e = ConfigError.spelling e' ∧ b.2.effect.Fault c e')
      (((ofConfig c).command b.2).mapError .spelling) :=
    fun b => (reads_command c b.2).mapError fun e he => ⟨e, rfl, he⟩
  have hread := reads_keyed c Prod.fst (ConfigError.duplicateCommand · layer)
    (fun _ b => ((ofConfig c).command b.2).mapError .spelling) (fun _ => rfl)
    (commands_cons (ofConfig c) layer) hcommand bindings .empty
  refine hread.congr Iff.rfl ?_ fun _ h => h
  rintro m ⟨new, hm, hnew⟩
  rw [hm]
  exact hnew

theorem reads_entry (key : KeyCode) (body : Config.Body) :
    Reads (body.Legible c) (body.Denotes c) (body.Fault c key) ((ofConfig c).entry key body) := by
  cases body with
  | command binding =>
    refine Reads.map (Reads.mapError (reads_command c binding) fun e he => .command he) ?_
    exact fun command hcommand => .command hcommand
  | commands bindings =>
    refine ((reads_commands c key bindings.entries).map fun m hm => .commands hm).congr Iff.rfl
      (fun _ h => h) ?_
    intro e he
    cases he with
    | blank mem blank => exact .blankKey mem blank
    | duplicate twice => exact .duplicateKey twice
    | element mem fault =>
      obtain ⟨e', rfl, he'⟩ := fault
      exact .binding mem he'

theorem entries_cons (w : Vocabulary) (m : OrderedMap Entry) (layer : Config.Layer)
    (layers : List Config.Layer) :
    w.entries m (layer :: layers) =
      ((w.key layer.key).mapError .spelling).bind fun key =>
        if m.contains key then .error (.duplicateLayer key)
        else (w.entry key layer.body).bind fun e => w.entries (m.insert key e) layers := by
  rw [entries]
  cases w.key layer.key with
  | error e => rfl
  | ok key => rfl

theorem reads_layers :
    Reads c.WellFormed c.Denotes c.Fault c.toLayers := by
  have hread := reads_keyed c Config.Layer.key .duplicateLayer
    (fun key layer => (ofConfig c).entry key layer.body) (fun _ => rfl)
    (entries_cons (ofConfig c))
    (fun layer => reads_entry c (c.keyOf layer.key) layer.body) c.layers .empty
  refine (hread.map ?_).congr ?_ (fun _ h => h) ?_
  · rintro m ⟨new, hm, hnew⟩
    rw [Config.Denotes, hm]
    exact hnew
  · constructor
    · rintro ⟨hlayers, hkeys⟩
      exact ⟨fun layer hl => (hlayers layer hl).1, hkeys, fun layer hl => (hlayers layer hl).2⟩
    · intro h
      exact ⟨fun layer hl => ⟨h.keys_named layer hl, h.bodies_legible layer hl⟩, h.keys_distinct⟩
  · intro e he
    cases he with
    | blank mem blank => exact .blankKey mem blank
    | duplicate twice => exact .duplicateKey twice
    | element mem fault => exact .body mem fault

end Vocabulary

/-- **Exactly the well-formed configurations are read, as the layers that they denote.** -/
theorem Config.toLayers_spec (c : Config) :
    ((∃ l, c.toLayers = .ok l) ↔ c.WellFormed) ∧
      (∀ l, c.toLayers = .ok l ↔ c.WellFormed ∧ c.Denotes l) ∧
      (¬ c.WellFormed → ∃ e, c.toLayers = .error e ∧ c.Fault e) := by
  have hread := Vocabulary.reads_layers c
  cases hlayers : c.toLayers with
  | ok l =>
    rw [hlayers] at hread
    cases hread with
    | ok hwell hdenotes =>
      refine ⟨⟨fun _ => hwell, fun _ => ⟨l, rfl⟩⟩, ?_, fun hnot => absurd hwell hnot⟩
      intro l'
      constructor
      · intro h
        cases h
        exact ⟨hwell, hdenotes⟩
      · rintro ⟨-, hdenotes'⟩
        rw [hdenotes.unique hdenotes']
  | error e =>
    rw [hlayers] at hread
    cases hread with
    | error hnot hfault =>
      refine ⟨⟨?_, fun h => absurd h hnot⟩, ?_, fun _ => ⟨e, rfl, hfault⟩⟩
      · rintro ⟨l, hl⟩
        cases hl
      · intro l'
        constructor
        · intro h
          cases h
        · rintro ⟨hwell, -⟩
          exact absurd hwell hnot

/-- A root key that opens an address, and one under another name that opens a sublayer. -/
def Config.browserAndMusic : Config where
  aliases.key := .ofList [("Music", "m")]
  aliases.mod := .ofList [("cmd", "command")]
  layers :=
    [⟨" B", .command ⟨.openTarget "https://example.com", some "Browser"⟩⟩,
     ⟨"music", .commands (.ofList
       [("P", ⟨.send [.consumerKey "play_or_pause", .key "F6" ["Shift", "cmd"]], none⟩),
        ("n", ⟨.emit "cmd+right_arrow", none⟩)])⟩]

/-- The layers of `Config.browserAndMusic`. -/
def Layers.browserAndMusic : Layers where
  entries := .ofList
    [("b", .leaf ⟨[.shell "open https://example.com"], some "Browser"⟩),
     ("m", .sublayer (.ofList
       [("p", ⟨[.consumerKey "play_or_pause", .keyPress ⟨"f6", [.shift, .command], false⟩], none⟩),
        ("n", ⟨[.keyPress ⟨"right_arrow", [.command], false⟩], none⟩)]))]

theorem Config.toLayers_browserAndMusic :
    Config.browserAndMusic.toLayers = .ok Layers.browserAndMusic := by
  have hvalue : Config.browserAndMusic.toLayers.toOption = some Layers.browserAndMusic := by
    decide +kernel
  cases hlayers : Config.browserAndMusic.toLayers with
  | ok l =>
    rw [hlayers] at hvalue
    exact congrArg Except.ok (Option.some.inj hvalue)
  | error e =>
    rw [hlayers] at hvalue
    cases hvalue

/-- Two root keys that are the same key, though they are not written in the same way. -/
def Config.browserTwice : Config where
  layers := [⟨"b", .command ⟨.openTarget "https://example.com", none⟩⟩,
    ⟨" B", .command ⟨.app "Safari", none⟩⟩]

/-- One configuration that is read and one that is refused. -/
theorem Config.toLayers_spec_browser :
    (Config.browserAndMusic.WellFormed ∧ Config.browserAndMusic.Denotes Layers.browserAndMusic) ∧
      ∃ e, Config.browserTwice.toLayers = .error e ∧ Config.browserTwice.Fault e := by
  have htwice : ¬ Config.browserTwice.WellFormed := by
    intro h
    exact absurd h.keys_distinct (by decide +kernel)
  constructor
  · exact ((Config.toLayers_spec Config.browserAndMusic).2.1 _).mp Config.toLayers_browserAndMusic
  · exact (Config.toLayers_spec Config.browserTwice).2.2 htwice

end KeyLayers
