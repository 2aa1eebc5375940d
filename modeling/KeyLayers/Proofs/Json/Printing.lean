import KeyLayers.Json.Printer
import KeyLayers.Proofs.Json.Reading
import KeyLayers.Proofs.Numeral.Digits
import KeyLayers.Proofs.OrderedMap

/-!
# Printed text follows the grammar

Every character of a text is either written as it is or as an escape, the digits
of an integer spell it, and line breaks are white space wherever the printer
puts them.  So a value is read from its printed text whatever the layout.

Two kinds of values are left out.  A floating point number may be no number at
all, and a day or a time is written as a text.

## Main definitions

* `Plain` — values of the kinds that JSON has, where no mapping has a key twice.

## Main results

* `spells_renderAt` — **the printed text of a plain value spells it.**
* `read_render` — it is read as what it was.
-/

namespace KeyLayers.Json

open Numeral

/-! ### Texts -/

/-- Control characters are written by their number. -/
theorem codeOf?_control {n : ℕ} (h : n < 0x20) :
    codeOf? ['0', '0', Nat.digitChar (n / 16), Nat.digitChar (n % 16)] = some n := by
  revert n
  decide

theorem spells_escapedChar (c : Char) : SpellsChar c (escapedChar c) := by
  unfold escapedChar
  split_ifs with hquote hbackslash hb hf hn hr ht hcontrol
  · exact .short (by rw [hquote]; decide)
  · exact .short (by rw [hbackslash]; decide)
  · exact .short (by rw [hb]; decide)
  · exact .short (by rw [hf]; decide)
  · exact .short (by rw [hn]; decide)
  · exact .short (by rw [hr]; decide)
  · exact .short (by rw [ht]; decide)
  · exact .code (codeOf?_control hcontrol)
  · exact .plain (not_lt.mp hcontrol) hquote hbackslash

theorem spellsText_flatMap (s : List Char) : SpellsText s (s.flatMap escapedChar) := by
  induction s with
  | nil => exact .nil
  | cons c s ih =>
    rw [List.flatMap_cons]
    exact .cons (spells_escapedChar c) ih

theorem spells_escaped (s : String) : Spells (.text s) (escaped s.toList) := by
  have h := Spells.text (spellsText_flatMap s.toList)
  rwa [String.ofList_toList] at h

/-! ### Integers -/

theorem numberOf?_intDigits (n : ℤ) : numberOf? (intDigits n) = some (.int n) := by
  have hne (m : ℕ) : (digits m).isEmpty = false := by simpa using digits_ne_nil m
  cases n with
  | ofNat n => simp [numberOf?, intDigits, cutMinus_digits, cutDigits_digits, hne, ofDigits?_digits]
  | negSucc n =>
    have hvalue : -Int.ofNat (n + 1) = Int.negSucc n := rfl
    simp [numberOf?, intDigits, cutMinus, cutDigits_digits, hne, ofDigits?_digits, ← hvalue]

/-- No number is one of the words. -/
theorem wordOf?_of_numberOf? {cs : List Char} {v : Value} (h : numberOf? cs = some v) :
    wordOf? cs = some v := by
  have hword {word : List Char} (hnone : numberOf? word = none) : cs ≠ word := by
    rintro rfl
    simp [hnone] at h
  rw [wordOf?, if_neg (hword rfl), if_neg (hword rfl), if_neg (hword rfl), h]

/-! ### Lists and mappings -/

theorem isWhite_lineBreak (i : Indent) (depth : ℕ) : IsWhite (i.lineBreak depth) := by
  intro c hc
  cases i with
  | compact => simp [Indent.lineBreak] at hc
  | spaces width =>
    rcases List.mem_cons.mp hc with rfl | hc
    · decide
    · rw [List.eq_of_mem_replicate hc]
      decide

theorem exists_colon (i : Indent) : ∃ w, IsWhite w ∧ i.colon = ':' :: w := by
  cases i with
  | compact => exact ⟨[], by simp [IsWhite], rfl⟩
  | spaces _ => exact ⟨[' '], by simp [IsWhite, isWhite], rfl⟩

theorem IsWhite.nil : IsWhite [] := by simp [IsWhite]

theorem Spells.before {v : Value} {w cs : List Char} (hw : IsWhite w) (h : Spells v cs) :
    Spells v (w ++ cs) := by
  simpa using Spells.padded hw h .nil

theorem Spells.after {v : Value} {w cs : List Char} (h : Spells v cs) (hw : IsWhite w) :
    Spells v (cs ++ w) := by
  simpa using Spells.padded .nil h hw

variable (i : Indent) (depth : ℕ)

/-- The items of a list with white space behind them. -/
theorem joins_renderItems {v : Value} {vs : List Value} {w : List Char} (hw : IsWhite w)
    (h : ∀ u ∈ v :: vs, Spells u (renderAt i depth u)) :
    Joins Spells (v :: vs)
      (i.lineBreak depth ++ renderAt i depth v ++ renderItems i depth vs ++ w) := by
  induction vs generalizing v with
  | nil =>
    have hv := (h v List.mem_cons_self).before (isWhite_lineBreak i depth)
    simpa [renderItems] using Joins.one (hv.after hw)
  | cons u vs ih =>
    have hv := (h v List.mem_cons_self).before (isWhite_lineBreak i depth)
    have hrest := ih (v := u) fun x hx => h x (List.mem_cons_of_mem v hx)
    simpa [renderItems] using Joins.cons hv hrest

theorem isMember_entry {k : String} {v : Value} {w cs : List Char} (hw : IsWhite w)
    (h : Spells v cs) :
    IsMember (k, v) (i.lineBreak depth ++ escaped k.toList ++ i.colon ++ cs ++ w) := by
  obtain ⟨w', hw', hcolon⟩ := exists_colon i
  refine ⟨⟨k, i.lineBreak depth ++ escaped k.toList, v, w' ++ cs ++ w⟩, rfl, ?_, ?_, ?_⟩
  · simp [Member.text, hcolon]
  · exact (spells_escaped k).before (isWhite_lineBreak i depth)
  · exact (h.before hw').after hw

/-- The entries of a mapping with white space behind them. -/
theorem joins_renderEntries {k : String} {v : Value} {es : Entries Value} {w : List Char}
    (hw : IsWhite w) (h : ∀ e ∈ (k, v) :: es, Spells e.2 (renderAt i depth e.2)) :
    Joins IsMember ((k, v) :: es)
      (i.lineBreak depth ++ escaped k.toList ++ i.colon ++ renderAt i depth v
        ++ renderEntries i depth es ++ w) := by
  induction es generalizing k v with
  | nil =>
    have hv := isMember_entry i depth (k := k) hw (h (k, v) List.mem_cons_self)
    simpa [renderEntries] using Joins.one hv
  | cons e es ih =>
    have hv := isMember_entry i depth (k := k) .nil (h (k, v) List.mem_cons_self)
    have hrest := ih (k := e.1) (v := e.2) fun x hx => h x (List.mem_cons_of_mem _ hx)
    simpa [renderEntries] using Joins.cons hv hrest

/-! ### Values -/

/-- Values of the kinds that JSON has, where no mapping has a key twice. -/
inductive Plain : Value → Prop
  | null : Plain .null
  | bool (b : Bool) : Plain (.bool b)
  | int (n : ℤ) : Plain (.int n)
  | text (s : String) : Plain (.text s)
  | list {vs : List Value} (items : ∀ v ∈ vs, Plain v) : Plain (.list vs)
  | map {es : Entries Value} (hkeys : (Entries.keys es).Nodup)
    (entries : ∀ e ∈ es, Plain e.2) : Plain (.map es)

/-- **The printed text of a plain value spells it**, whatever the layout. -/
theorem spells_renderAt {v : Value} (h : Plain v) (depth : ℕ) :
    Spells v (renderAt i depth v) := by
  induction h generalizing depth with
  | null =>
    rw [renderAt]
    exact .word (by rfl)
  | bool b =>
    rw [renderAt]
    cases b <;> exact .word (by rfl)
  | int n =>
    rw [renderAt]
    exact .word (wordOf?_of_numberOf? (numberOf?_intDigits n))
  | text s =>
    rw [renderAt]
    exact spells_escaped s
  | @list vs items ih =>
    cases vs with
    | nil =>
      rw [renderAt]
      exact .emptyList .nil
    | cons v vs =>
      have h := joins_renderItems i (depth + 1) (isWhite_lineBreak i depth)
        fun u hu => ih u hu (depth + 1)
      rw [renderAt]
      simpa using h.spells_list
  | @map es hkeys entries ih =>
    cases es with
    | nil =>
      rw [renderAt]
      exact .emptyMap .nil
    | cons e es =>
      obtain ⟨k, v⟩ := e
      have h := joins_renderEntries i (depth + 1) (isWhite_lineBreak i depth)
        fun e he => ih e he (depth + 1)
      rw [renderAt]
      -- without repeated keys every entry counts
      have hspells := h.spells_map
      rw [OrderedMap.entries_ofList hkeys] at hspells
      simpa using hspells

/-- A plain value is read from its printed text as what it was. -/
theorem read_render {v : Value} (h : Plain v) {w : String} (hw : IsWhite w.toList) :
    read (render i v ++ w) = some v := by
  rw [read_eq_some_iff, render, String.toList_append, String.toList_ofList]
  exact (spells_renderAt i h 0).after hw

end KeyLayers.Json
