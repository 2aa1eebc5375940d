import KeyLayers.Json.Reader
import Mathlib.Data.List.TakeWhile
import Mathlib.Tactic.Choose

/-!
# The reader follows the grammar

The grammar splits a text into pieces, and the reader only sees what comes next.
That it finds the same pieces is not obvious for two of them.  A number ends
where its characters end, so what follows a value must not be a character of
words: inside brackets it is white space, a comma or a bracket.  And the first
item of a list is told apart from the closing bracket by its first character
behind white space, so no value may start with a closing bracket.

## Main results

* `readText_of_spells`, `readItems_of_found`, `readElement_of_spells` — what the grammar
  spells is read.
* `spells_of_readText`, `spells_of_readItems`, `spells_of_readElement` — what is read is spelt by
  the grammar.
* `read_eq_some_iff` — **the reader gives the value that a text spells, and only that.**
-/

namespace KeyLayers.Json

open Numeral

/-! ### White space -/

theorem skipWhite_append {w : List Char} (h : IsWhite w) (cs : List Char) :
    skipWhite (w ++ cs) = skipWhite cs :=
  List.dropWhile_append_of_pos h

theorem skipWhite_cons {c : Char} (h : isWhite c = false) (cs : List Char) :
    skipWhite (c :: cs) = c :: cs :=
  List.dropWhile_cons_of_neg (by simp [h])

theorem skipWhite_append_of_eq_cons {cs ds : List Char} {d : Char} (h : skipWhite cs = d :: ds)
    (tail : List Char) : skipWhite (cs ++ tail) = d :: (ds ++ tail) := by
  unfold skipWhite at h ⊢
  simp [List.dropWhile_append, h]

/-- White space is all that is skipped. -/
theorem exists_white (cs : List Char) : ∃ w, IsWhite w ∧ cs = w ++ skipWhite cs := by
  refine ⟨cs.takeWhile isWhite, fun c hc => ?_, List.takeWhile_append_dropWhile.symm⟩
  exact List.mem_takeWhile_imp hc

/-! ### Words and numbers -/

/-- What may follow a word: nothing that could be taken for a part of it. -/
def EndsWord (rest : List Char) : Prop := ∀ c ∈ rest.head?, isWordChar c = false

theorem isWordChar_of_isDigit {c : Char} (h : c.isDigit = true) : isWordChar c = true := by
  simp [isWordChar, Char.isAlphanum, h]

theorem isWordChar_of_isDigits {cs : List Char} (h : isDigits cs = true) :
    ∀ c ∈ cs, isWordChar c = true := by
  intro c hc
  simp only [isDigits, Bool.and_eq_true, List.all_eq_true] at h
  exact isWordChar_of_isDigit (h.2 c hc)

theorem isWordChar_of_isPower {cs : List Char} (h : isPower cs = true) :
    ∀ c ∈ cs, isWordChar c = true := by
  have he {c : Char} (h : (decide (c = 'e') || decide (c = 'E')) = true) :
      isWordChar c = true := by
    rcases Bool.or_eq_true_iff.mp h with h | h
    · rw [of_decide_eq_true h]
      decide
    · rw [of_decide_eq_true h]
      decide
  unfold isPower at h
  split at h
  · simp
  · obtain ⟨hc, hds⟩ := Bool.and_eq_true_iff.mp h
    simpa [he hc] using ⟨by decide, isWordChar_of_isDigits hds⟩
  · obtain ⟨hc, hds⟩ := Bool.and_eq_true_iff.mp h
    simpa [he hc] using ⟨by decide, isWordChar_of_isDigits hds⟩
  · obtain ⟨hc, hds⟩ := Bool.and_eq_true_iff.mp h
    simpa [he hc] using isWordChar_of_isDigits hds

theorem isWordChar_of_isFraction {cs : List Char} (h : isFraction cs = true) :
    ∀ c ∈ cs, isWordChar c = true := by
  unfold isFraction at h
  split at h
  · rename_i cs
    obtain ⟨-, hpower⟩ := Bool.and_eq_true_iff.mp h
    intro c hc
    rw [List.mem_cons, ← List.takeWhile_append_dropWhile (p := Char.isDigit) (l := cs),
      List.mem_append] at hc
    rcases hc with rfl | hc | hc
    · decide
    · exact isWordChar_of_isDigit (List.mem_takeWhile_imp hc)
    · exact isWordChar_of_isPower hpower c hc
  · exact isWordChar_of_isPower h

theorem cutMinus_eq {cs sign unsigned : List Char} (h : cutMinus cs = (sign, unsigned)) :
    cs = sign ++ unsigned ∧ ∀ c ∈ sign, c = '-' := by
  unfold cutMinus at h
  split at h <;> cases h <;> simp

theorem cutDigits_eq {cs ds rest : List Char} (h : cutDigits cs = (ds, rest)) :
    cs = ds ++ rest ∧ ∀ c ∈ ds, c.isDigit = true := by
  unfold cutDigits at h
  split at h
  · cases h
    exact ⟨rfl, List.forall_mem_singleton.mpr (by decide)⟩
  · cases h
    exact ⟨List.takeWhile_append_dropWhile.symm, fun c hc => List.mem_takeWhile_imp hc⟩

/-- Numbers are made of the characters of words, and there is at least one. -/
theorem isWordChar_of_numberOf? {cs : List Char} {v : Value} (h : numberOf? cs = some v) :
    cs ≠ [] ∧ ∀ c ∈ cs, isWordChar c = true := by
  unfold numberOf? at h
  rcases hsign : cutMinus cs with ⟨sign, unsigned⟩
  rcases hds : cutDigits unsigned with ⟨ds, rest⟩
  obtain ⟨rfl, hminus⟩ := cutMinus_eq hsign
  obtain ⟨rfl, hdigits⟩ := cutDigits_eq hds
  simp only [hsign, hds] at h
  split at h
  · simp at h
  rename_i hne
  have hword : ∀ c ∈ rest, isWordChar c = true := by
    split at h
    · rename_i hrest
      simp [List.isEmpty_iff.mp hrest]
    · split at h
      · rename_i hfraction
        exact isWordChar_of_isFraction hfraction
      · simp at h
  refine ⟨by simpa using fun _ h => absurd h (by simpa using hne), fun c hc => ?_⟩
  rcases List.mem_append.mp hc with hc | hc
  · rw [hminus c hc]
    decide
  · rcases List.mem_append.mp hc with hc | hc
    · exact isWordChar_of_isDigit (hdigits c hc)
    · exact hword c hc

theorem isWordChar_of_wordOf? {cs : List Char} {v : Value} (h : wordOf? cs = some v) :
    cs ≠ [] ∧ ∀ c ∈ cs, isWordChar c = true := by
  have hword {word : List Char} (hall : word.all isWordChar = true) (hcs : cs = word)
      (hne : word ≠ []) : cs ≠ [] ∧ ∀ c ∈ cs, isWordChar c = true := by
    rw [hcs]
    exact ⟨hne, List.all_eq_true.mp hall⟩
  unfold wordOf? at h
  split at h
  · rename_i hcs
    exact hword (by decide) hcs (by decide)
  · split at h
    · rename_i hcs
      exact hword (by decide) hcs (by decide)
    · split at h
      · rename_i hcs
        exact hword (by decide) hcs (by decide)
      · exact isWordChar_of_numberOf? h

/-- Words are no texts. -/
theorem wordOf?_ne_text (cs : List Char) (s : String) : wordOf? cs ≠ some (.text s) := by
  unfold wordOf? numberOf?
  intro h
  repeat' split at h
  all_goals simp at h

/-- Characters of words are neither white space nor do they open anything. -/
theorem ne_of_isWordChar {c d : Char} (h : isWordChar c = true) (hd : isWordChar d = false) :
    c ≠ d := by
  rintro rfl
  simp [hd] at h

theorem isWhite_of_isWordChar {c : Char} (h : isWordChar c = true) : isWhite c = false := by
  have h₁ := ne_of_isWordChar (d := ' ') h (by decide)
  have h₂ := ne_of_isWordChar (d := '\t') h (by decide)
  have h₃ := ne_of_isWordChar (d := '\n') h (by decide)
  have h₄ := ne_of_isWordChar (d := '\r') h (by decide)
  simp [isWhite, h₁, h₂, h₃, h₄]

variable {p : List Char → Option (Value × List Char)}

/-- A value that starts with a character of words is taken as a word. -/
theorem readValue_of_isWordChar {c : Char} (h : isWordChar c = true) (cs : List Char) :
    readValue p (c :: cs) = (wordOf? ((c :: cs).takeWhile isWordChar)).map fun v =>
      (v, (c :: cs).dropWhile isWordChar) := by
  have hne {d : Char} {ds : List Char} (hd : isWordChar d = false) : c :: cs ≠ d :: ds :=
    fun heq => ne_of_isWordChar h hd (List.cons.inj heq).1
  unfold readValue
  split
  · rename_i heq
    exact absurd heq (hne (by decide))
  · rename_i heq
    exact absurd heq (hne (by decide))
  · rename_i heq
    exact absurd heq (hne (by decide))
  · rfl

theorem readValue_word {v : Value} {cs rest : List Char} (h : wordOf? cs = some v)
    (hrest : EndsWord rest) : readValue p (cs ++ rest) = some (v, rest) := by
  obtain ⟨hne, hword⟩ := isWordChar_of_wordOf? h
  have htake : (cs ++ rest).takeWhile isWordChar = cs := by
    rw [List.takeWhile_append_of_pos hword]
    cases rest with
    | nil => simp
    | cons c rest => simp [hrest c rfl]
  have hdrop : (cs ++ rest).dropWhile isWordChar = rest := by
    rw [List.dropWhile_append_of_pos hword]
    cases rest with
    | nil => simp
    | cons c rest => simp [hrest c rfl]
  cases cs with
  | nil => exact absurd rfl hne
  | cons c cs =>
    rw [List.cons_append] at htake hdrop ⊢
    rw [readValue_of_isWordChar (hword c List.mem_cons_self), htake, hdrop, h]
    rfl

/-! ### Texts -/

theorem codeOf?_length {ds : List Char} {n : ℕ} (h : codeOf? ds = some n) : ds.length = 4 := by
  unfold codeOf? at h
  split at h
  · assumption
  · simp at h

theorem readCode_append {ds : List Char} {n : ℕ} (h : codeOf? ds = some n) (rest : List Char) :
    readCode (ds ++ rest) = some (n, rest) := by
  have hlength := codeOf?_length h
  rw [readCode, List.take_append_of_le_length hlength.ge, List.drop_append_of_le_length hlength.ge,
    List.take_of_length_le hlength.le, List.drop_of_length_le hlength.le, h]
  rfl

theorem charOf?_toNat (c : Char) : charOf? c.toNat = some c := by
  have hvalid : c.toNat.isValidChar := c.valid
  rw [charOf?, if_pos hvalid, Char.ofNat_toNat]

/-- No character is half of a surrogate pair. -/
theorem isHigh_toNat (c : Char) : isHigh c.toNat = false := by
  have hvalid : c.toNat.isValidChar := c.valid
  simp only [isHigh, Bool.and_eq_false_iff, decide_eq_false_iff_not]
  rcases hvalid with h | h
  · left
    omega
  · right
    omega

theorem readChar_of_spells {c : Char} {cs : List Char} (h : SpellsChar c cs)
    (rest : List Char) : readChar (cs ++ rest) = some (c, rest) := by
  cases h with
  | plain hcontrol hquote hbackslash =>
    unfold readChar
    split
    · contradiction
    · rename_i heq
      exact absurd (List.cons.inj heq).1 hbackslash
    · rename_i heq
      exact absurd (List.cons.inj heq).1 hbackslash
    · rename_i heq
      obtain ⟨rfl, rfl⟩ := List.cons.inj heq
      rw [if_pos ⟨hcontrol, hquote, hbackslash⟩]
      rfl
  | @short e h =>
    have he : e ≠ 'u' := by
      rintro rfl
      have hnone : shortEscapes.lookup 'u' = none := by decide
      simp [hnone] at h
    show readChar ('\\' :: e :: rest) = some (c, rest)
    unfold readChar
    split
    · contradiction
    · rename_i heq
      exact absurd (List.cons.inj (List.cons.inj heq).2).1 he
    · rename_i heq
      obtain ⟨rfl, rfl⟩ := List.cons.inj (List.cons.inj heq).2
      rw [h]
      rfl
    · rename_i hnot heq
      obtain ⟨rfl, rfl⟩ := List.cons.inj heq
      exact absurd rfl (hnot e rest rfl)
  | @code ds h =>
    show ((readCode (ds ++ rest)).bind _) = _
    rw [readCode_append h]
    simp [isHigh_toNat, charOf?_toNat]
  | @pair ds es high low hds hhigh hes hlow hc =>
    have hlow' : readLow high ('\\' :: 'u' :: es ++ rest) = some (c, rest) := by
      show ((readCode (es ++ rest)).bind _) = _
      rw [readCode_append hes]
      simp [hlow, ← hc, charOf?_toNat]
    show ((readCode (ds ++ '\\' :: 'u' :: es ++ rest)).bind _) = _
    rw [List.append_assoc, readCode_append hds]
    simpa [hhigh] using hlow'

/-- The spelling of a character does not start with a quote. -/
theorem SpellsChar.head {c : Char} {cs : List Char} (h : SpellsChar c cs) :
    ∃ d ds, cs = d :: ds ∧ d ≠ '"' := by
  cases h with
  | plain _ hquote _ => exact ⟨c, [], rfl, hquote⟩
  | short _ => exact ⟨'\\', _, rfl, by decide⟩
  | code _ => exact ⟨'\\', _, rfl, by decide⟩
  | pair _ _ _ _ _ => exact ⟨'\\', _, rfl, by decide⟩

theorem readText_cons {d : Char} (hd : d ≠ '"') (n : ℕ) (cs : List Char) :
    readText (n + 1) (d :: cs) = (readChar (d :: cs)).bind fun (c, rest) =>
      (readText n rest).map fun (s, rest) => (c :: s, rest) := by
  rw [readText]
  exact fun _ heq => hd (List.cons.inj heq).1

theorem readText_of_spells {s cs : List Char} (h : SpellsText s cs) {n : ℕ} (hn : cs.length ≤ n)
    (rest : List Char) : readText n (cs ++ '"' :: rest) = some (s, rest) := by
  induction h generalizing n with
  | nil => cases n <;> rfl
  | @cons c s cs cs' head tail ih =>
    -- a character is not taken for the closing quote
    obtain ⟨d, ds, rfl, hd⟩ := head.head
    obtain ⟨n, rfl⟩ : ∃ m, n = m + 1 := ⟨n - 1, by simp at hn; omega⟩
    have hread := readChar_of_spells head (cs' ++ '"' :: rest)
    have htail := ih (n := n) (by simp at hn; omega)
    rw [List.append_assoc, List.cons_append, readText_cons hd, ← List.cons_append, hread]
    simp [htail]

theorem readQuoted_of_spells {s cs : List Char} (h : SpellsText s cs) (rest : List Char) :
    readQuoted (cs ++ '"' :: rest) = some (s, rest) :=
  readText_of_spells h (by simp) rest

/-! ### Items between brackets -/

section Sequences

variable {α : Type} {p : List Char → Option (α × List Char)} {close : Char}

/-- `Found p close a cs` says that `p` reads `a` from `cs` where a comma or `close`
follows. -/
def Found (p : List Char → Option (α × List Char)) (close : Char) (a : α) (cs : List Char) :
    Prop :=
  ∀ d rest, d = ',' ∨ d = close → p (cs ++ d :: rest) = some (a, d :: rest)

theorem length_le_intercalate (cells : List (List Char)) :
    cells.length ≤ ([','].intercalate cells).length + 1 := by
  induction cells with
  | nil => simp
  | cons cs cells ih =>
    cases cells with
    | nil => simp
    | cons cs' cells =>
      simp only [List.intercalate_cons_cons, List.length_append, List.length_cons] at ih ⊢
      omega

theorem length_le_of_mem {cells : List (List Char)} {cs : List Char} (h : cs ∈ cells) :
    cs.length ≤ ([','].intercalate cells).length := by
  induction cells with
  | nil => simp at h
  | cons cs' cells ih =>
    cases cells with
    | nil => simp_all
    | cons cs'' cells =>
      rw [List.intercalate_cons_cons]
      rcases List.mem_cons.mp h with rfl | h
      · simp
      · have := ih h
        simp only [List.length_append]
        omega

theorem readItems_of_found (hclose : close ≠ ',') {cells : List (α × List Char)}
    (hne : cells ≠ []) (h : ∀ c ∈ cells, Found p close c.1 c.2) {n : ℕ} (hn : cells.length ≤ n)
    (rest : List Char) :
    readItems p close n ([','].intercalate (cells.map Prod.snd) ++ close :: rest) =
      some (cells.map Prod.fst, rest) := by
  induction cells generalizing n with
  | nil => exact absurd rfl hne
  | cons c cells ih =>
    obtain ⟨n, rfl⟩ : ∃ m, n = m + 1 := ⟨n - 1, by simp at hn; omega⟩
    have hc := h c List.mem_cons_self
    cases cells with
    | nil =>
      have hread := hc close rest (.inr rfl)
      simp [readItems, hread, hclose]
    | cons c' cells =>
      have hread := hc ',' ([','].intercalate ((c' :: cells).map Prod.snd) ++ close :: rest)
        (.inl rfl)
      have hrest := ih (by simp) (fun d hd => h d (List.mem_cons_of_mem c hd)) (n := n)
        (by simpa using hn)
      simp only [List.map_cons, List.intercalate_cons_cons, List.append_assoc,
        List.cons_append, List.nil_append] at hread hrest ⊢
      rw [readItems, hread]
      simp [hrest]

theorem readEnclosed_of_isWhite (hclose : isWhite close = false) {w : List Char}
    (hw : IsWhite w) (rest : List Char) :
    readEnclosed p close (w ++ close :: rest) = some ([], rest) := by
  rw [readEnclosed, skipWhite_append hw, skipWhite_cons hclose]
  simp

/-- Items are told apart from `close` by what the first of them starts with. -/
theorem readEnclosed_of_found (hclose : close ≠ ',') {cells : List (α × List Char)}
    (hne : cells ≠ []) (h : ∀ c ∈ cells, Found p close c.1 c.2)
    (hhead : ∀ c ∈ cells, ∃ d ds, skipWhite c.2 = d :: ds ∧ d ≠ close) (rest : List Char) :
    readEnclosed p close ([','].intercalate (cells.map Prod.snd) ++ close :: rest) =
      some (cells.map Prod.fst, rest) := by
  have hbound : cells.length ≤
      ([','].intercalate (cells.map Prod.snd) ++ close :: rest).length := by
    have := length_le_intercalate (cells.map Prod.snd)
    simp only [List.length_map, List.length_append, List.length_cons] at this ⊢
    omega
  have hitems := readItems_of_found hclose hne h hbound rest
  obtain ⟨c, hc, tail, htail⟩ : ∃ c ∈ cells, ∃ tail,
      [','].intercalate (cells.map Prod.snd) ++ close :: rest = c.2 ++ tail := by
    obtain ⟨c, cells, rfl⟩ := List.exists_cons_of_ne_nil hne
    refine ⟨c, List.mem_cons_self, ?_⟩
    cases cells with
    | nil => exact ⟨close :: rest, by simp⟩
    | cons c' cells =>
      rw [List.map_cons, List.map_cons, List.intercalate_cons_cons, List.append_assoc,
        List.append_assoc]
      exact ⟨_, rfl⟩
  obtain ⟨d, ds, hskip, hd⟩ := hhead c hc
  rw [htail] at hitems ⊢
  rw [readEnclosed, skipWhite_append_of_eq_cons hskip]
  simp only [hd, if_false]
  exact hitems

end Sequences

/-! ### Values -/

theorem Spells.head {v : Value} {cs : List Char} (h : Spells v cs) :
    ∃ d ds, skipWhite cs = d :: ds ∧ d ≠ ']' ∧ d ≠ '\x7d' := by
  induction h with
  | @word v cs h =>
    obtain ⟨hne, hword⟩ := isWordChar_of_wordOf? h
    obtain ⟨c, cs, rfl⟩ := List.exists_cons_of_ne_nil hne
    have hc := hword c List.mem_cons_self
    exact ⟨c, cs, skipWhite_cons (isWhite_of_isWordChar hc) cs, ne_of_isWordChar hc (by decide),
      ne_of_isWordChar hc (by decide)⟩
  | text _ => exact ⟨'"', _, skipWhite_cons (by decide) _, by decide, by decide⟩
  | emptyList _ => exact ⟨'[', _, skipWhite_cons (by decide) _, by decide, by decide⟩
  | list _ _ => exact ⟨'[', _, skipWhite_cons (by decide) _, by decide, by decide⟩
  | emptyMap _ => exact ⟨'\x7b', _, skipWhite_cons (by decide) _, by decide, by decide⟩
  | map _ _ _ => exact ⟨'\x7b', _, skipWhite_cons (by decide) _, by decide, by decide⟩
  | @padded v l cs r hl _ _ ih =>
    obtain ⟨d, ds, hskip, hd⟩ := ih
    refine ⟨d, ds ++ r, ?_, hd⟩
    rw [List.append_assoc, skipWhite_append hl, skipWhite_append_of_eq_cons hskip]

/-- A spelling of a text is a quoted text with white space around it. -/
theorem Spells.exists_text {s : String} {cs : List Char} (h : Spells (.text s) cs) :
    ∃ l s' body r, IsWhite l ∧ IsWhite r ∧ SpellsText s' body ∧ s = String.ofList s' ∧
      cs = l ++ ('"' :: body ++ ['"']) ++ r := by
  generalize hv : Value.text s = v at h
  induction h with
  | word h => exact absurd (hv ▸ h) (wordOf?_ne_text _ s)
  | @text s' body h =>
    exact ⟨[], s', body, [], by simp [IsWhite], by simp [IsWhite], h, by simpa using hv, by simp⟩
  | emptyList _ => simp at hv
  | list _ _ => simp at hv
  | emptyMap _ => simp at hv
  | map _ _ _ => simp at hv
  | @padded _ l cs r hl _ hr ih =>
    obtain ⟨l', s', body, r', hl', hr', hbody, rfl, rfl⟩ := ih hv
    refine ⟨l ++ l', s', body, r' ++ r, ?_, ?_, hbody, rfl, by simp⟩
    · exact fun c hc => (List.mem_append.mp hc).elim (hl c) (hl' c)
    · exact fun c hc => (List.mem_append.mp hc).elim (hr' c) (hr c)

/-- A member is found if its value is. -/
theorem found_member {n : ℕ} {m : Member} (hname : Spells (.text m.name) m.nameText)
    (hvalue : Found (readElement n) '\x7d' m.value m.valueText) :
    Found (readMember (readElement n)) '\x7d' m.entry m.text := by
  intro d rest hd
  obtain ⟨l, s, body, r, hl, hr, hbody, hs, htext⟩ := hname.exists_text
  have hread := readQuoted_of_spells hbody (r ++ ':' :: (m.valueText ++ d :: rest))
  have hskip : skipWhite (r ++ ':' :: (m.valueText ++ d :: rest)) =
      ':' :: (m.valueText ++ d :: rest) := by
    rw [skipWhite_append hr, skipWhite_cons (by decide)]
  have hstart : skipWhite (m.text ++ d :: rest) =
      '"' :: (body ++ '"' :: (r ++ ':' :: (m.valueText ++ d :: rest))) := by
    rw [Member.text, htext]
    simp only [List.append_assoc, List.cons_append, List.nil_append]
    rw [skipWhite_append hl, skipWhite_cons (by decide)]
  rw [readMember, hstart]
  simp [hread, hskip, hvalue d rest hd, Member.entry, hs]

/-- What may follow an item of a list or an object. -/
structure IsSeparator (d : Char) : Prop where
  isWordChar : isWordChar d = false
  isWhite : isWhite d = false

theorem isSeparator_bracket : IsSeparator ']' := ⟨by decide, by decide⟩

theorem isSeparator_brace : IsSeparator '\x7d' := ⟨by decide, by decide⟩

theorem isSeparator {d close : Char} (hclose : IsSeparator close) (h : d = ',' ∨ d = close) :
    IsSeparator d := by
  rcases h with rfl | rfl
  · exact ⟨by decide, by decide⟩
  · exact hclose

theorem EndsWord.of_cons {d : Char} (h : isWordChar d = false) (rest : List Char) :
    EndsWord (d :: rest) := by
  intro c hc
  obtain rfl : d = c := by simpa using hc
  exact h

theorem EndsWord.of_isWhite {w rest : List Char} (hw : IsWhite w) (h : EndsWord rest) :
    EndsWord (w ++ rest) := by
  cases w with
  | nil => exact h
  | cons c w =>
    refine .of_cons ?_ (w ++ rest)
    cases hword : isWordChar c with
    | false => rfl
    | true => simpa [isWhite_of_isWordChar hword] using hw c List.mem_cons_self

theorem readElement_append {w : List Char} (hw : IsWhite w) (n : ℕ) (cs : List Char) :
    readElement n (w ++ cs) = readElement n cs := by
  cases n with
  | zero => rfl
  | succ n => rw [readElement, readElement, skipWhite_append hw]

theorem readElement_of_readValue {n : ℕ} {c : Char} {cs rest : List Char} {v : Value}
    (hc : isWhite c = false) (h : readValue (readElement n) (c :: cs) = some (v, rest)) :
    readElement (n + 1) (c :: cs) = some (v, skipWhite rest) := by
  rw [readElement, skipWhite_cons hc, h]
  rfl

/-- An element is found as an item if it is read before everything that ends a word. -/
theorem found_element {close : Char} (hclose : IsSeparator close) {n : ℕ} {v : Value}
    {cs : List Char}
    (h : ∀ {rest}, EndsWord rest → readElement n (cs ++ rest) = some (v, skipWhite rest)) :
    Found (readElement n) close v cs := by
  intro d rest hd
  have hseparator := isSeparator hclose hd
  rw [h (.of_cons hseparator.isWordChar rest), skipWhite_cons hseparator.isWhite]

/-- A bound on a text that is not empty leaves a bound on the rest. -/
theorem exists_bound {c : Char} {cs : List Char} {n : ℕ} (h : (c :: cs).length ≤ n) :
    ∃ m, n = m + 1 ∧ cs.length ≤ m :=
  ⟨n - 1, by simp at h; omega, by simp at h; omega⟩

/-- A list is read if its items are found, with one less of the bound, which the opening bracket
uses up. -/
theorem readElement_list {cells : List (Value × List Char)} (hne : cells ≠ [])
    (items : ∀ c ∈ cells, Spells c.1 c.2) {n : ℕ}
    (hfound : ∀ c ∈ cells, Found (readElement n) ']' c.1 c.2) (rest : List Char) :
    readElement (n + 1) ('[' :: [','].intercalate (cells.map Prod.snd) ++ [']'] ++ rest) =
      some (.list (cells.map Prod.fst), skipWhite rest) := by
  have hhead : ∀ c ∈ cells, ∃ d ds, skipWhite c.2 = d :: ds ∧ d ≠ ']' := by
    intro c hc
    obtain ⟨d, ds, hskip, hd, -⟩ := (items c hc).head
    exact ⟨d, ds, hskip, hd⟩
  simp only [List.cons_append, List.append_assoc, List.nil_append]
  refine readElement_of_readValue (by decide) ?_
  simp [readValue, readEnclosed_of_found (by decide) hne hfound hhead]

/-- An object is read if the values of its members are found. -/
theorem readElement_map {members : List Member} (hne : members ≠ [])
    (names : ∀ m ∈ members, Spells (.text m.name) m.nameText) {n : ℕ}
    (hfound : ∀ m ∈ members, Found (readElement n) '\x7d' m.value m.valueText)
    (rest : List Char) :
    readElement (n + 1)
        ('\x7b' :: [','].intercalate (members.map Member.text) ++ ['\x7d'] ++ rest) =
      some (.map (OrderedMap.ofList (members.map Member.entry)).entries, skipWhite rest) := by
  -- as for a list, with a member and its text for an item
  have hmembers : ∀ c ∈ members.map fun m => (m.entry, m.text),
      Found (readMember (readElement n)) '\x7d' c.1 c.2 := by
    intro c hc
    obtain ⟨m, hm, rfl⟩ := List.mem_map.mp hc
    exact found_member (names m hm) (hfound m hm)
  have hhead : ∀ c ∈ members.map fun m => (m.entry, m.text),
      ∃ d ds, skipWhite c.2 = d :: ds ∧ d ≠ '\x7d' := by
    intro c hc
    obtain ⟨m, hm, rfl⟩ := List.mem_map.mp hc
    obtain ⟨d, ds, hskip, -, hd⟩ := (names m hm).head
    refine ⟨d, ds ++ ':' :: m.valueText, ?_, hd⟩
    exact skipWhite_append_of_eq_cons hskip _
  have hread := readEnclosed_of_found (by decide) (by simpa using hne) hmembers hhead rest
  simp only [List.map_map, Function.comp_def] at hread
  simp only [List.cons_append, List.append_assoc, List.nil_append]
  refine readElement_of_readValue (by decide) ?_
  simp [readValue, hread]

/-- What the grammar spells is read, whatever follows that is no part of it. -/
theorem readElement_of_spells {v : Value} {cs : List Char} (h : Spells v cs) {n : ℕ}
    (hn : cs.length ≤ n) {rest : List Char} (hrest : EndsWord rest) :
    readElement n (cs ++ rest) = some (v, skipWhite rest) := by
  induction h generalizing n rest with
  | @word v cs h =>
    obtain ⟨hne, hword⟩ := isWordChar_of_wordOf? h
    obtain ⟨c, cs, rfl⟩ := List.exists_cons_of_ne_nil hne
    obtain ⟨n, rfl, -⟩ := exists_bound hn
    exact readElement_of_readValue (isWhite_of_isWordChar (hword c List.mem_cons_self))
      (readValue_word h hrest)
  | @text s cs h =>
    obtain ⟨n, rfl, -⟩ := exists_bound hn
    simp only [List.cons_append, List.append_assoc, List.nil_append]
    refine readElement_of_readValue (by decide) ?_
    simp [readValue, readQuoted_of_spells h]
  | @emptyList w h =>
    obtain ⟨n, rfl, -⟩ := exists_bound hn
    simp only [List.cons_append, List.append_assoc, List.nil_append]
    refine readElement_of_readValue (by decide) ?_
    simp [readValue, readEnclosed_of_isWhite isSeparator_bracket.isWhite h]
  | @list cells hne items ih =>
    obtain ⟨n, rfl, hn⟩ := exists_bound hn
    refine readElement_list hne items (fun c hc => ?_) rest
    have hlength := length_le_of_mem (List.mem_map_of_mem (f := Prod.snd) hc)
    exact found_element isSeparator_bracket (ih c hc (by simp at hn; omega))
  | @emptyMap w h =>
    obtain ⟨n, rfl, -⟩ := exists_bound hn
    simp only [List.cons_append, List.append_assoc, List.nil_append]
    refine readElement_of_readValue (by decide) ?_
    simp [readValue, readEnclosed_of_isWhite isSeparator_brace.isWhite h]
    rfl
  | @map members hne names values ihn ihv =>
    obtain ⟨n, rfl, hn⟩ := exists_bound hn
    refine readElement_map hne names (fun m hm => ?_) rest
    have hlength := length_le_of_mem (List.mem_map_of_mem (f := Member.text) hm)
    have hvalue : m.valueText.length ≤ n := by
      simp [Member.text] at hn hlength
      omega
    exact found_element isSeparator_brace (ihv m hm hvalue)
  | @padded v l cs r hl _ hr ih =>
    -- white space behind a value ends a word, whatever comes after it
    have hread := ih (n := n) (by simp at hn; omega) (hrest.of_isWhite hr)
    rw [skipWhite_append hr] at hread
    rw [List.append_assoc, List.append_assoc, readElement_append hl, hread]

/-! ### What is read is spelt -/

/-- `Exact p R` says that `p` takes exactly what spells its result off the front. -/
def Exact {α : Type} (p : List Char → Option (α × List Char)) (R : α → List Char → Prop) : Prop :=
  ∀ cs a rest, p cs = some (a, rest) → ∃ pre, cs = pre ++ rest ∧ R a pre

theorem exact_readCode : Exact readCode fun n ds => codeOf? ds = some n := by
  intro cs n rest h
  obtain ⟨m, hm, heq⟩ := Option.map_eq_some_iff.mp h
  obtain ⟨rfl, rfl⟩ := Prod.mk.inj heq
  exact ⟨cs.take 4, (List.take_append_drop 4 cs).symm, hm⟩

theorem toNat_of_charOf? {n : ℕ} {c : Char} (h : charOf? n = some c) : c.toNat = n := by
  unfold charOf? at h
  split at h
  · rename_i hvalid
    obtain rfl := Option.some.inj h
    rw [Char.ofNat, dif_pos hvalid]
    rfl
  · simp at h

theorem exact_readLow (high : ℕ) : Exact (readLow high) fun c pre => ∃ es low,
    pre = '\\' :: 'u' :: es ∧ codeOf? es = some low ∧ isLow low ∧ c.toNat = pairCode high low := by
  intro cs c rest h
  unfold readLow at h
  split at h
  · obtain ⟨⟨low, rest'⟩, hcode, hread⟩ := Option.bind_eq_some_iff.mp h
    obtain ⟨es, rfl, hes⟩ := exact_readCode _ _ _ hcode
    dsimp only at hread
    split at hread
    · rename_i hlow
      obtain ⟨c', hc, heq⟩ := Option.map_eq_some_iff.mp hread
      obtain ⟨rfl, rfl⟩ := Prod.mk.inj heq
      exact ⟨_, rfl, es, low, rfl, hes, hlow, toNat_of_charOf? hc⟩
    · simp at hread
  · simp at h

theorem exact_readChar : Exact readChar SpellsChar := by
  intro cs c rest h
  unfold readChar at h
  split at h
  · simp at h
  · obtain ⟨⟨n, rest'⟩, hcode, hread⟩ := Option.bind_eq_some_iff.mp h
    obtain ⟨ds, rfl, hds⟩ := exact_readCode _ _ _ hcode
    dsimp only at hread
    split at hread
    · rename_i hhigh
      obtain ⟨pre, rfl, es, low, rfl, hes, hlow, hc⟩ := exact_readLow n _ _ _ hread
      exact ⟨_, by simp, .pair hds hhigh hes hlow hc⟩
    · obtain ⟨c', hc, heq⟩ := Option.map_eq_some_iff.mp hread
      obtain ⟨rfl, rfl⟩ := Prod.mk.inj heq
      exact ⟨_, rfl, .code (toNat_of_charOf? hc ▸ hds)⟩
  · obtain ⟨c', hc, heq⟩ := Option.map_eq_some_iff.mp h
    obtain ⟨rfl, rfl⟩ := Prod.mk.inj heq
    exact ⟨_, rfl, .short hc⟩
  · split at h
    · rename_i hplain
      obtain ⟨rfl, rfl⟩ := Prod.mk.inj (Option.some.inj h)
      exact ⟨_, rfl, .plain hplain.1 hplain.2.1 hplain.2.2⟩
    · simp at h

theorem exact_readText (n : ℕ) :
    Exact (readText n) fun s pre => ∃ body, pre = body ++ ['"'] ∧ SpellsText s body := by
  induction n with
  | zero =>
    intro cs s rest h
    unfold readText at h
    split at h
    · obtain ⟨rfl, rfl⟩ := Prod.mk.inj (Option.some.inj h)
      exact ⟨['"'], rfl, [], rfl, .nil⟩
    · simp at h
    · contradiction
  | succ n ih =>
    intro cs s rest h
    unfold readText at h
    split at h
    · obtain ⟨rfl, rfl⟩ := Prod.mk.inj (Option.some.inj h)
      exact ⟨['"'], rfl, [], rfl, .nil⟩
    · contradiction
    · rename_i m hm _
      obtain rfl : n = m := Nat.succ.inj hm
      obtain ⟨⟨c, rest₁⟩, hc, hread⟩ := Option.bind_eq_some_iff.mp h
      obtain ⟨⟨s', rest₂⟩, hs, heq⟩ := Option.map_eq_some_iff.mp hread
      obtain ⟨rfl, rfl⟩ := Prod.mk.inj heq
      obtain ⟨pre, rfl, hpre⟩ := exact_readChar _ _ _ hc
      obtain ⟨_, rfl, body, rfl, hbody⟩ := ih _ _ _ hs
      exact ⟨pre ++ body ++ ['"'], by simp, pre ++ body, rfl, .cons hpre hbody⟩

section Sequences

variable {α : Type} {p : List Char → Option (α × List Char)} {close : Char}
  {R : α → List Char → Prop}

/-- `Joins R as cs` says that `cs` has spellings of the items `as` with commas between them. -/
def Joins (R : α → List Char → Prop) (as : List α) (cs : List Char) : Prop :=
  ∃ cells : List (α × List Char), cells ≠ [] ∧ (∀ c ∈ cells, R c.1 c.2) ∧
    as = cells.map Prod.fst ∧ cs = [','].intercalate (cells.map Prod.snd)

theorem Joins.one {a : α} {cs : List Char} (h : R a cs) : Joins R [a] cs :=
  ⟨[(a, cs)], by simp, by simpa using h, rfl, by simp⟩

theorem Joins.cons {a : α} {as : List α} {cs cs' : List Char} (h : R a cs)
    (hrest : Joins R as cs') : Joins R (a :: as) (cs ++ ',' :: cs') := by
  obtain ⟨cells, hne, hcells, rfl, rfl⟩ := hrest
  refine ⟨(a, cs) :: cells, by simp, ?_, rfl, ?_⟩
  · rintro c hc
    rcases List.mem_cons.mp hc with rfl | hc
    · exact h
    · exact hcells c hc
  · obtain ⟨c, cells, rfl⟩ := List.exists_cons_of_ne_nil hne
    simp

theorem exact_readItems (hp : Exact p R) (n : ℕ) :
    Exact (readItems p close n) fun as pre => ∃ body, pre = body ++ [close] ∧ Joins R as body := by
  induction n with
  | zero =>
    intro cs as rest h
    simp [readItems] at h
  | succ n ih =>
    intro cs as rest h
    obtain ⟨⟨a, rest₁⟩, ha, hread⟩ := Option.bind_eq_some_iff.mp h
    obtain ⟨pre, rfl, hpre⟩ := hp _ _ _ ha
    dsimp only at hread
    split at hread
    · simp at hread
    · split at hread
      · rename_i hcomma
        obtain ⟨⟨as', rest₂⟩, has, heq⟩ := Option.map_eq_some_iff.mp hread
        obtain ⟨rfl, rfl⟩ := Prod.mk.inj heq
        obtain ⟨_, rfl, body, rfl, hbody⟩ := ih _ _ _ has
        exact ⟨_, by simp [hcomma], pre ++ ',' :: body, rfl, hbody.cons hpre⟩
      · split at hread
        · rename_i hclose
          obtain ⟨rfl, rfl⟩ := Prod.mk.inj (Option.some.inj hread)
          exact ⟨_, by simp [hclose], pre, rfl, .one hpre⟩
        · simp at hread

theorem exact_readEnclosed (hp : Exact p R) : Exact (readEnclosed p close) fun as pre =>
    ∃ body, pre = body ++ [close] ∧ ((as = [] ∧ IsWhite body) ∨ Joins R as body) := by
  intro cs as rest h
  unfold readEnclosed at h
  split at h
  · simp at h
  · rename_i c rest₁ hskip
    split at h
    · rename_i hclose
      obtain ⟨rfl, rfl⟩ := Prod.mk.inj (Option.some.inj h)
      obtain ⟨w, hw, hcs⟩ := exists_white cs
      exact ⟨_, by rw [hcs, hskip, hclose]; simp, w, rfl, .inl ⟨rfl, hw⟩⟩
    · obtain ⟨pre, rfl, body, rfl, hbody⟩ := exact_readItems hp _ _ _ _ h
      exact ⟨_, rfl, body, rfl, .inr hbody⟩

end Sequences

/-- `IsMember e cs` says that `cs` spells a name and a value. -/
def IsMember (e : String × Value) (cs : List Char) : Prop :=
  ∃ m : Member, m.entry = e ∧ m.text = cs ∧ Spells (.text m.name) m.nameText ∧
    Spells m.value m.valueText

theorem exact_readMember (hp : Exact p Spells) : Exact (readMember p) IsMember := by
  intro cs e rest h
  unfold readMember at h
  split at h
  · rename_i cs' hskip
    obtain ⟨⟨s, rest₁⟩, hs, hread⟩ := Option.bind_eq_some_iff.mp h
    obtain ⟨_, rfl, body, rfl, hbody⟩ := exact_readText _ _ _ _ hs
    dsimp only at hread
    split at hread
    · rename_i rest₂ hcolon
      obtain ⟨⟨v, rest₃⟩, hv, heq⟩ := Option.map_eq_some_iff.mp hread
      obtain ⟨rfl, rfl⟩ := Prod.mk.inj heq
      obtain ⟨valueText, rfl, hvalue⟩ := hp _ _ _ hv
      obtain ⟨w, hw, hcs⟩ := exists_white cs
      obtain ⟨w', hw', hrest₁⟩ := exists_white rest₁
      rw [hskip] at hcs
      rw [hcolon] at hrest₁
      refine ⟨w ++ ('"' :: body ++ ['"']) ++ w' ++ ':' :: valueText, by simp [hcs, hrest₁], ?_⟩
      exact ⟨⟨_, _, _, _⟩, rfl, rfl, .padded hw (.text hbody) hw', hvalue⟩
    · simp at hread
  · simp at h

theorem Joins.spells_list {vs : List Value} {cs : List Char} (h : Joins Spells vs cs) :
    Spells (.list vs) ('[' :: cs ++ [']']) := by
  obtain ⟨cells, hne, hcells, rfl, rfl⟩ := h
  exact .list hne hcells

theorem Joins.spells_map {es : Entries Value} {cs : List Char} (h : Joins IsMember es cs) :
    Spells (.map (OrderedMap.ofList es).entries) ('\x7b' :: cs ++ ['\x7d']) := by
  obtain ⟨cells, hne, hcells, rfl, rfl⟩ := h
  choose! f hentry htext hname hvalue using hcells
  have hentries : cells.map Prod.fst = (cells.map f).map Member.entry := by
    rw [List.map_map]
    exact (List.map_congr_left hentry).symm
  have htexts : cells.map Prod.snd = (cells.map f).map Member.text := by
    rw [List.map_map]
    exact (List.map_congr_left htext).symm
  rw [hentries, htexts]
  exact .map (by simpa using hne) (List.forall_mem_map.mpr hname) (List.forall_mem_map.mpr hvalue)

theorem exact_readValue (hp : Exact p Spells) : Exact (readValue p) Spells := by
  intro cs v rest h
  unfold readValue at h
  split at h
  · obtain ⟨⟨s, rest₁⟩, hs, heq⟩ := Option.map_eq_some_iff.mp h
    obtain ⟨rfl, rfl⟩ := Prod.mk.inj heq
    obtain ⟨_, rfl, body, rfl, hbody⟩ := exact_readText _ _ _ _ hs
    exact ⟨_, rfl, .text hbody⟩
  · obtain ⟨⟨vs, rest₁⟩, hvs, heq⟩ := Option.map_eq_some_iff.mp h
    obtain ⟨rfl, rfl⟩ := Prod.mk.inj heq
    obtain ⟨_, rfl, body, rfl, ⟨rfl, hw⟩ | hjoins⟩ := exact_readEnclosed hp _ _ _ hvs
    · exact ⟨_, rfl, .emptyList hw⟩
    · exact ⟨_, rfl, hjoins.spells_list⟩
  · obtain ⟨⟨es, rest₁⟩, hes, heq⟩ := Option.map_eq_some_iff.mp h
    obtain ⟨rfl, rfl⟩ := Prod.mk.inj heq
    obtain ⟨_, rfl, body, rfl, ⟨rfl, hw⟩ | hjoins⟩ :=
      exact_readEnclosed (exact_readMember hp) _ _ _ hes
    · exact ⟨_, rfl, .emptyMap hw⟩
    · exact ⟨_, rfl, hjoins.spells_map⟩
  · obtain ⟨v', hv, heq⟩ := Option.map_eq_some_iff.mp h
    obtain ⟨rfl, rfl⟩ := Prod.mk.inj heq
    exact ⟨_, List.takeWhile_append_dropWhile.symm, .word hv⟩

theorem exact_readElement (n : ℕ) : Exact (readElement n) Spells := by
  induction n with
  | zero =>
    intro cs v rest h
    simp [readElement] at h
  | succ n ih =>
    intro cs v rest h
    obtain ⟨⟨v', rest₁⟩, hv, heq⟩ := Option.map_eq_some_iff.mp h
    obtain ⟨rfl, rfl⟩ := Prod.mk.inj heq
    obtain ⟨pre, hpre, hspells⟩ := exact_readValue ih _ _ _ hv
    obtain ⟨w, hw, hcs⟩ := exists_white cs
    obtain ⟨w', hw', hrest⟩ := exists_white rest₁
    refine ⟨w ++ pre ++ w', ?_, .padded hw hspells hw'⟩
    rw [List.append_assoc, ← hrest, List.append_assoc, ← hpre, ← hcs]

/-- **The reader gives the value that a text spells, and only that.**  In particular
no text spells two values. -/
theorem read_eq_some_iff {s : String} {v : Value} : read s = some v ↔ Spells v s.toList := by
  unfold read
  constructor
  · intro h
    split at h
    · rename_i v' hread
      obtain rfl := Option.some.inj h
      obtain ⟨pre, hpre, hspells⟩ := exact_readElement _ _ _ _ hread
      rw [hpre, List.append_nil]
      exact hspells
    · simp at h
  · intro h
    have hread := readElement_of_spells h le_rfl (show EndsWord [] by simp [EndsWord])
    rw [List.append_nil] at hread
    simp [hread, skipWhite]

/-- Of two values under one name the last counts, and an escaped surrogate pair is one character. -/
example : read "\x7b \"a\": [1, -0], \"b\" :\"\\ud83d\\ude00\\n\", \"a\":null\x7d" =
    some (.map [("a", .null), ("b", .text "😀\n")]) := by
  rfl

end KeyLayers.Json
