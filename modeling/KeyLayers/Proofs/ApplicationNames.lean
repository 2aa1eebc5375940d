import KeyLayers.Proofs.Config.Reading
import KeyLayers.Proofs.Host.Shell

/-!
# Names of applications in command lines

An application is opened by a command line in which its name stands between
single quotes, so that blanks and the characters on which a shell acts may stand
in the name.  This is no quotation of any name: a single quote in the name closes
the quotes, and everything behind it is read as a part of the command line.  At
best the quotation ends up unclosed and the application is not opened; at worst
the rest of the name is run.

So the line says what it should for the names without a single quote and for no
others.  That it never does so by accident is a matter of counting: the line has
two characters more than its words need, and these are the quotes around the
name, but a quote in the name costs a further one.

## Main definitions

* `applicationLine` — the command line that opens an application.

## Main results

* `run_applicationLine_quote` — what stands behind a quote is read as it stands.
* `Command.openApp_words` — **names are safe exactly if no quote stands in them.**
* `Command.openApp_quotedNames` — names that are not.
-/

namespace KeyLayers

open Shell

/-- The command line that opens an application. -/
def applicationLine (name : String) : String := "open -a '" ++ name ++ ".app'"

theorem toList_applicationLine (name : String) : (applicationLine name).toList =
    "open -a '".toList ++ (name.toList ++ ".app'".toList) := by
  rw [applicationLine, String.toList_append, String.toList_append, List.append_assoc]

/-- Before the name two words have been read, and a quote has been opened. -/
theorem run_beforeName : State.run {} "open -a '".toList =
    .ok ⟨.single, some [], ["open".toList, "-a".toList]⟩ := by decide

/-- A name without a quote is read as it is, and then the quote is closed. -/
theorem words_applicationLine {name : String} (h : '\'' ∉ name.toList) :
    words (applicationLine name) = .ok ["open", "-a", name ++ ".app"] := by
  have hquoted : '\'' ∉ name.toList ++ ".app".toList := by
    rw [List.mem_append, not_or]
    exact ⟨h, by decide⟩
  have hline : (applicationLine name).toList =
      "open -a '".toList ++ ((name.toList ++ ".app".toList) ++ ['\'']) := by
    rw [toList_applicationLine, List.append_assoc]
    rfl
  have hrun : State.run {} (applicationLine name).toList =
      .ok ⟨.bare, some (name.toList ++ ".app".toList), ["open".toList, "-a".toList]⟩ := by
    rw [hline, State.run_append, run_beforeName]
    show State.run ⟨.single, some [], _⟩ _ = _
    rw [State.run_append, State.run_single hquoted]
    rfl
  rw [words, hrun, ← String.toList_append]
  show Except.ok [String.ofList "open".toList, String.ofList "-a".toList,
    String.ofList (name ++ ".app").toList] = _
  rw [String.ofList_toList, String.ofList_toList, String.ofList_toList]

/-- **What stands behind a quote is read as it stands**, outside of quotes, as the rest of a word
that what stands before it has begun. -/
theorem run_applicationLine_quote {name : String} {before after : List Char}
    (hname : name.toList = before ++ '\'' :: after) (h : '\'' ∉ before) :
    State.run {} (applicationLine name).toList =
      State.run ⟨.bare, some before, ["open".toList, "-a".toList]⟩ (after ++ ".app'".toList) := by
  rw [toList_applicationLine, hname, State.run_append, run_beforeName]
  show State.run ⟨.single, some [], _⟩ _ = _
  rw [List.append_assoc, State.run_append, State.run_single h]
  rfl

/-- A name with a quote is never read as it is. -/
theorem words_applicationLine_ne {name : String} (h : '\'' ∈ name.toList) :
    words (applicationLine name) ≠ .ok ["open", "-a", name ++ ".app"] := by
  intro hwords
  obtain ⟨before, after, hname, hbefore⟩ := List.eq_append_cons_of_mem h
  obtain ⟨st, hrun, hbare, hsize⟩ := exists_run_of_words hwords
  rw [run_applicationLine_quote hname hbefore] at hrun
  -- the quote at the end of the line is still to be read
  have hquote : '\'' ∈ after ++ ".app'".toList := List.mem_append_right _ (by decide)
  have hlost := State.size_run hrun (Nat.zero_le 1)
  rw [if_pos hquote, hbare, List.length_append] at hlost
  have hlength : name.length = before.length + (after.length + 1) := by
    rw [← String.length_toList, hname, List.length_append, List.length_cons]
  have hwordsLength :
      (["open", "-a", name ++ ".app"].flatMap String.toList).length = name.length + 10 := by
    have happ : "open".length = 4 ∧ "-a".length = 2 ∧ ".app".length = 4 := by decide
    simp only [List.flatMap_cons, List.flatMap_nil, List.length_append, List.length_nil,
      String.length_toList, String.length_append]
    omega
  have hstart : State.size ⟨.bare, some before, ["open".toList, "-a".toList]⟩ =
      before.length + 6 := by
    show ["open".toList, "-a".toList].flatten.length + before.length = _
    have hread : ["open".toList, "-a".toList].flatten.length = 6 := by decide
    rw [hread, Nat.add_comm]
  have happ : ".app'".toList.length = 5 := by decide
  rw [hsize, hwordsLength, hlength, hstart, happ] at hlost
  simp only [Quoting.pending] at hlost
  omega

/-- **Names are safe exactly if no quote stands in them.**  To open an application is to run one
shell command, from a configuration as well, and its line is read as three words, the last of which
is the name of the application's directory, if and only if no single quote stands in the name. -/
theorem Command.openApp_words (name : String) :
    ∃ line, (Command.openApp name).actions = [.shell line] ∧
      (∀ (w : Vocabulary) (description : Option String), ∃ command,
        w.command ⟨.app name, description⟩ = .ok command ∧ command.actions = [.shell line]) ∧
      (words line = .ok ["open", "-a", name ++ ".app"] ↔ '\'' ∉ name.toList) := by
  have hactions : (Command.openApp name).actions = [.shell (applicationLine name)] := by
    rw [Vocabulary.openApp_eq]
    rfl
  refine ⟨applicationLine name, hactions, ?_, ?_⟩
  · intro w description
    exact ⟨_, rfl, hactions⟩
  · constructor
    · intro hwords hquote
      exact words_applicationLine_ne hquote hwords
    · exact words_applicationLine

/-- The name of an application with an apostrophe leaves a quote open, and one that closes the
quotes itself goes on as a command. -/
theorem Command.openApp_quotedNames :
    ('\x00' ∉ "Bob's".toList ∧ ¬ ∃ line, (Command.openApp "Bob's").actions = [.shell line] ∧
        words line = .ok ["open", "-a", "Bob's.app"]) ∧
      words "open -a 'Bob's.app'" = .error .unclosed ∧
      words "open -a 'x'; say 'hi.app'" = .error (.active ';') := by
  refine ⟨⟨by decide, ?_⟩, by decide, by decide⟩
  rintro ⟨line, hline, hwords⟩
  have hbob : (Command.openApp "Bob's").actions = [.shell "open -a 'Bob's.app'"] := by decide
  obtain rfl := Action.shell.inj (List.singleton_inj.mp (hbob.symm.trans hline))
  exact absurd hwords (by decide)

end KeyLayers
