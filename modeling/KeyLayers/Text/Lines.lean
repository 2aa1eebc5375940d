import KeyLayers.Text.CodeRange

/-!
# Line ends

A text file may end its lines with a line feed, a carriage return, or both; a reader of the file
sees line feeds only.  Where a text is shown line by line, a line also ends at a tabulation of
lines, a new page, an information separator of the three higher ranks, and the line ends beyond
ASCII.

## Main definitions

* `unifyLines` — the text with every line end written as one line feed.
* `isLineEnd`, `lines` — the characters that end a line, and the lines of a text.

## Main results

* `return_notMem_unifyLines` — no carriage return is left.
* `isLineEnd_of_mem_lines` — no line has a line end in it.
-/

namespace KeyLayers.Text

/-! ### Files -/

/-- The text with every line end written as one line feed. -/
def unifyLines : List Char → List Char
  | [] => []
  | '\r' :: '\n' :: s => '\n' :: unifyLines s
  | '\r' :: s => '\n' :: unifyLines s
  | c :: s => c :: unifyLines s

@[simp] theorem unifyLines_nil : unifyLines [] = [] := rfl

/-- No carriage return is left. -/
theorem return_notMem_unifyLines (s : List Char) : '\r' ∉ unifyLines s := by
  fun_induction unifyLines s with
  | case1 => simp
  | case2 s ih => simp [ih]
  | case3 s _ ih => simp [ih]
  | case4 c s _ hc ih =>
    rw [List.mem_cons, not_or]
    exact ⟨Ne.symm hc, ih⟩

/-! ### Shown text -/

/-- The characters that end a line. -/
def lineEndRanges : List (Nat × Nat) := [(0xA, 0xD), (0x1C, 0x1E), (0x85, 0x85), (0x2028, 0x2029)]

/-- Whether a character ends a line. -/
def isLineEnd (c : Char) : Bool := inRanges lineEndRanges c.toNat

/-- The lines of a text without their ends.  A carriage return and a line feed together are one end,
and nothing behind the last end is no line. -/
def lines : List Char → List (List Char)
  | [] => []
  | '\r' :: '\n' :: s => [] :: lines s
  | c :: s =>
    if isLineEnd c then [] :: lines s
    else
      match lines s with
      | [] => [[c]]
      | l :: ls => (c :: l) :: ls

@[simp] theorem lines_nil : lines [] = [] := rfl

/-- No line has a line end in it. -/
theorem isLineEnd_of_mem_lines {s l : List Char} (h : l ∈ lines s) {c : Char} (hc : c ∈ l) :
    isLineEnd c = false := by
  fun_induction lines s generalizing l with
  | case1 => simp at h
  | case2 s ih =>
    rcases List.mem_cons.1 h with rfl | h
    · simp at hc
    · exact ih h hc
  | case3 d s _ _ ih =>
    rcases List.mem_cons.1 h with rfl | h
    · simp at hc
    · exact ih h hc
  | case4 d s _ hd hs ih =>
    obtain rfl := List.mem_singleton.1 h
    obtain rfl := List.mem_singleton.1 hc
    simpa using hd
  | case5 d s _ hd k ls hs ih =>
    rw [hs] at ih
    rcases List.mem_cons.1 h with rfl | h
    · rcases List.mem_cons.1 hc with rfl | hc
      · simpa using hd
      · exact ih List.mem_cons_self hc
    · exact ih (List.mem_cons_of_mem _ h) hc

end KeyLayers.Text
