import Mathlib.Data.List.Basic

/-!
# Reading a command line as plain words

The host hands shell commands to a shell, and the shell acts on much of what
stands in them.  Blanks end a word, and other characters end the whole command,
redirect it, or stand for something else: a variable, the output of another
command, the names of files.  Quoting takes the meaning away from them.  Between
single quotes every character stands for itself, so that no single quote can
stand there; between double quotes nearly every character does; and behind a
backslash the next one does.

A command line is read here only as far as it is nothing but words.  The first
character on which a shell would act is reported, and so is a quote that is not
closed.

## Main definitions

* `Shell.Quoting`, `Shell.Fault` — how a character is taken, and why reading ends.
* `Shell.State`, `Shell.State.step`, `Shell.State.run` — reading one character and many.
* `Shell.words` — the words of a line that has nothing else.

## Main results

* `Shell.State.run_single` — what stands between single quotes is taken as it is.
* `Shell.State.size_run` — **reading a single quote costs a character.**
-/

namespace KeyLayers.Shell

/-- How the next character of a line is taken. -/
inductive Quoting
  /-- Outside of quotes. -/
  | bare
  /-- Behind a backslash outside of quotes. -/
  | escaped
  /-- Between single quotes. -/
  | single
  /-- Between double quotes. -/
  | double
  /-- Behind a backslash between double quotes. -/
  | doubleEscaped
  deriving DecidableEq, Repr

/-- Why a line is not read as plain words. -/
inductive Fault
  /-- A shell acts on a character. -/
  | active (c : Char)
  /-- A quote is not closed, or nothing stands behind a backslash. -/
  | unclosed
  deriving DecidableEq, Repr

/-- Blanks separate words. -/
def isBlank (c : Char) : Bool := c = ' ' || c = '\t'

/-- The characters that begin an expansion, also between double quotes. -/
def expands (c : Char) : Bool := c = '$' || c = '\x60'

/-- The characters on which a shell may act outside of quotes: those that end a command, redirect
it or group it, those that begin an expansion, and those that mean something in some places, as at
the beginning of a word, in the name of a file or in the first word of a command. -/
def isActive (c : Char) : Bool :=
  expands c ||
    ['\n', ';', '&', '|', '<', '>', '(', ')', '*', '?', '[', ']', '#', '~', '=', '%', '!', '^',
      '\x7b', '\x7d'].contains c

/-- How far a line has been read. -/
structure State where
  /-- How the next character is taken. -/
  quoting : Quoting := .bare
  /-- The word that has been begun, if there is one. -/
  word : Option (List Char) := none
  /-- The words before it. -/
  finished : List (List Char) := []
  deriving DecidableEq, Repr

namespace State

/-- The state with more characters of the word; between words they begin one. -/
def extend (st : State) (quoting : Quoting) (s : List Char) : State :=
  ⟨quoting, some (st.word.getD [] ++ s), st.finished⟩

/-- The state in which the next character is taken in another way. -/
def turn (st : State) (quoting : Quoting) : State := { st with quoting := quoting }

/-- The state after the end of a word. -/
def endWord (st : State) : State := ⟨.bare, none, st.finished ++ st.word.toList⟩

/-- Reads a character. -/
def step (st : State) (c : Char) : Except Fault State :=
  match st.quoting with
  | .bare =>
    if c = '\'' then .ok (st.extend .single [])
    else if c = '"' then .ok (st.extend .double [])
    else if c = '\\' then .ok (st.turn .escaped)
    else if isBlank c then .ok st.endWord
    else if isActive c then .error (.active c)
    else .ok (st.extend .bare [c])
  | .escaped =>
    -- a backslash takes a line break away with it
    if c = '\n' then .ok (st.turn .bare) else .ok (st.extend .bare [c])
  | .single => if c = '\'' then .ok (st.turn .bare) else .ok (st.extend .single [c])
  | .double =>
    if c = '"' then .ok (st.turn .bare)
    else if c = '\\' then .ok (st.turn .doubleEscaped)
    else if expands c then .error (.active c)
    else .ok (st.extend .double [c])
  | .doubleEscaped =>
    -- and stands for itself before a character that means nothing between double quotes
    if c = '\n' then .ok (st.turn .double)
    else if expands c || c = '"' || c = '\\' then .ok (st.extend .double [c])
    else .ok (st.extend .double ['\\', c])

/-- Reads characters. -/
def run (st : State) : List Char → Except Fault State
  | [] => .ok st
  | c :: s => (st.step c).bind fun st' => st'.run s

/-- The words at the end of a line. -/
def close (st : State) : Except Fault (List (List Char)) :=
  if st.quoting = .bare then .ok st.endWord.finished else .error .unclosed

end State

/-- The words of a line, if it has nothing but words. -/
def words (line : String) : Except Fault (List String) :=
  ((State.run {} line.toList).bind State.close).map fun ws => ws.map String.ofList

/-- Quotes of either kind may stand inside a word, and an expansion is noticed between double
quotes but not between single ones. -/
example : words "say a'b  c'\"'\"\\'" = .ok ["say", "ab  c''"] ∧
    words "say '$HOME'" = .ok ["say", "$HOME"] ∧ words "say \"$HOME\"" = .error (.active '$') :=
  ⟨by decide +kernel, by decide +kernel, by decide +kernel⟩

namespace State

variable {st st' : State} {s t : List Char}

theorem run_append (st : State) (s t : List Char) :
    st.run (s ++ t) = (st.run s).bind fun st' => st'.run t := by
  induction s generalizing st with
  | nil => rfl
  | cons c s ih =>
    rw [List.cons_append, run, run]
    cases st.step c with
    | error fault => rfl
    | ok st' => exact ih st'

/-- What stands between single quotes is taken as it is. -/
theorem run_single (h : '\'' ∉ s) (word : List Char) (finished : List (List Char)) :
    run ⟨.single, some word, finished⟩ s = .ok ⟨.single, some (word ++ s), finished⟩ := by
  induction s generalizing word with
  | nil => rw [List.append_nil, run]
  | cons c s ih =>
    rw [List.mem_cons, not_or] at h
    obtain ⟨hc, hs⟩ := h
    have hstep : step ⟨.single, some word, finished⟩ c =
        .ok ⟨.single, some (word ++ [c]), finished⟩ := if_neg (Ne.symm hc)
    rw [run, hstep]
    show run ⟨.single, some (word ++ [c]), finished⟩ s = _
    rw [ih hs, List.append_assoc, List.singleton_append]

/-! ### Lost characters -/

/-- The number of characters of the words. -/
def size (st : State) : ℕ := st.finished.flatten.length + (st.word.getD []).length

@[simp] theorem quoting_extend (st : State) (q : Quoting) (s : List Char) :
    (st.extend q s).quoting = q := rfl

@[simp] theorem quoting_turn (st : State) (q : Quoting) : (st.turn q).quoting = q := rfl

@[simp] theorem quoting_endWord (st : State) : st.endWord.quoting = .bare := rfl

@[simp] theorem size_extend (st : State) (q : Quoting) (s : List Char) :
    (st.extend q s).size = st.size + s.length := by
  simp only [size, extend, Option.getD_some, List.length_append]
  omega

@[simp] theorem size_turn (st : State) (q : Quoting) : (st.turn q).size = st.size := rfl

@[simp] theorem size_endWord (st : State) : st.endWord.size = st.size := by
  cases hword : st.word with
  | none => simp [size, endWord, hword]
  | some word => simp [size, endWord, hword]

end State

/-- The number of characters before the next one that are not in a word: a quote that has been
opened, and a backslash that may still turn out to stand for itself. -/
def Quoting.pending : Quoting → ℕ
  | .bare => 0
  | .escaped => 1
  | .single => 1
  | .double => 1
  | .doubleEscaped => 2

namespace State

variable {st st' : State} {lost : ℕ}

/-- A step takes at most its character into the words.  If it is known how many are lost before, no
more than one, then a single quote makes it one. -/
theorem size_step {c : Char} (h : st.step c = .ok st') (hlost : lost ≤ 1) :
    st'.size + max (if c = '\'' then 1 else lost) st'.quoting.pending ≤
      st.size + max lost st.quoting.pending + 1 := by
  generalize hlost' : (if c = '\'' then 1 else lost) = lost'
  have hle : lost' ≤ 1 := by
    rw [← hlost']
    split <;> omega
  unfold step at h
  cases hquoting : st.quoting with
  | bare =>
    simp only [hquoting] at h
    by_cases hc : c = '\''
    · rw [if_pos hc] at h
      obtain rfl := Except.ok.inj h
      simp only [size_extend, quoting_extend, Quoting.pending, List.length_nil]
      omega
    · -- only here a character goes into the words without one having been lost for certain
      rw [if_neg hc] at h hlost'
      subst hlost'
      split_ifs at h <;> obtain rfl := Except.ok.inj h <;> simp [Quoting.pending] <;> omega
  | escaped | single | double | doubleEscaped =>
    simp only [hquoting] at h
    split_ifs at h <;> obtain rfl := Except.ok.inj h <;> simp [Quoting.pending] <;> omega

/-- **Reading a single quote costs a character**, whatever it does there. -/
theorem size_run {s : List Char} (h : st.run s = .ok st') (hlost : lost ≤ 1) :
    st'.size + max (if '\'' ∈ s then 1 else lost) st'.quoting.pending ≤
      st.size + max lost st.quoting.pending + s.length := by
  induction s generalizing st lost with
  | nil =>
    obtain rfl := Except.ok.inj h
    simp
  | cons c s ih =>
    rw [run] at h
    cases hstep : st.step c with
    | error fault => rw [hstep] at h; cases h
    | ok next =>
      rw [hstep] at h
      have hcost := size_step hstep hlost
      have hlost' : (if c = '\'' then 1 else lost) ≤ 1 := by split <;> omega
      have hrest := ih h hlost'
      have hsame : (if '\'' ∈ c :: s then 1 else lost) =
          if '\'' ∈ s then 1 else if c = '\'' then 1 else lost := by
        by_cases hc : c = '\'' <;> simp [hc, eq_comm]
      rw [hsame, List.length_cons]
      omega

end State

/-- Reading a line of words ends outside of quotes, with these words. -/
theorem exists_run_of_words {line : String} {ws : List String} (h : words line = .ok ws) :
    ∃ st, State.run {} line.toList = .ok st ∧ st.quoting = .bare ∧
      st.size = (ws.flatMap String.toList).length := by
  unfold words at h
  cases hrun : State.run {} line.toList with
  | error fault => rw [hrun] at h; cases h
  | ok st =>
    rw [hrun] at h
    by_cases hbare : st.quoting = .bare
    · have hclose : st.close = .ok st.endWord.finished := if_pos hbare
      change (st.close.map fun ws => ws.map String.ofList) = .ok ws at h
      rw [hclose] at h
      obtain rfl : st.endWord.finished.map String.ofList = ws := Except.ok.inj h
      refine ⟨st, rfl, hbare, ?_⟩
      have hsize : st.endWord.size = st.endWord.finished.flatten.length := rfl
      have htexts : String.toList ∘ String.ofList = id := funext fun _ => String.toList_ofList
      rw [← State.size_endWord, hsize, List.flatMap_def, List.map_map, htexts, List.map_id]
    · have hclose : st.close = .error .unclosed := if_neg hbare
      change (st.close.map fun ws => ws.map String.ofList) = .ok ws at h
      rw [hclose] at h
      cases h

end KeyLayers.Shell
