import CommandConsole.Proofs.Session.Passage

/-!
# Output that stays

Nothing that a script asks for takes back what was sent to the surface: each answer to a request adds to the output
(`answer_shows`), if submitting a line does, so a run adds to it (`run_shows`).
-/

namespace CommandConsole

namespace Session

/-- The output of a session begins with that of another one. -/
def Shows (s s' : Session) : Prop := s.surface.output <+: s'.surface.output

theorem Shows.refl (s : Session) : Shows s s := List.prefix_refl _

theorem Shows.trans {s s' s'' : Session} (h : Shows s s') (h' : Shows s' s'') : Shows s s'' :=
  List.IsPrefix.trans h h'

/-- Sessions with the same output. -/
theorem Shows.of_eq {s s' : Session} (h : s'.surface.output = s.surface.output) : Shows s s' :=
  ⟨[], by rw [List.append_nil, h]⟩

/-! ## Parts of a session -/

/-- Sending adds to the output. -/
theorem send_shows (s : Session) (o : Output) : Shows s (s.send o) := List.prefix_append _ _

/-- Picking colours adds to the output, or leaves it. -/
theorem paint_shows (s : Session) (picked : Colors) : Shows s (s.paint picked) := by
  unfold paint Surface.setColors
  dsimp only
  split
  · exact List.prefix_append _ _
  · exact .refl s

/-- The exit handler leaves the output. -/
theorem hide_shows (s : Session) : Shows s s.hide.1 := by
  unfold hide
  split <;> exact .refl s

/-- What is done to the history leaves the output. -/
theorem clearHistory_shows (s : Session) : Shows s s.clearHistory.1 := by
  unfold clearHistory
  split
  · rename_i after h
    exact .of_eq (congrArg (·.1.surface.output) h).symm
  · exact .refl s

/-- A report of an edit leaves the output. -/
theorem inputChanged_shows (s : Session) (text : String) : Shows s (s.inputChanged text) := by
  unfold inputChanged
  split <;> exact .refl s

/-- Replacing the input line adds to the output. -/
theorem writeInput_shows (s : Session) (text : String) : Shows s (s.writeInput text).1 := List.prefix_append _ _

/-- So does putting a text into it for a command. -/
theorem setInput_shows (s : Session) (text : String) : Shows s (s.setInput text).1 := by
  have hset : Shows s { s with surface := s.surface.setInput text } := List.prefix_append _ _
  unfold setInput
  dsimp only
  split
  · exact hset.trans (inputChanged_shows _ text)
  · exact hset

/-- Moving through the history replaces the input line, or leaves the output. -/
theorem navigate_shows (s : Session) (direction : Value) : Shows s (s.navigate direction).1 := by
  unfold navigate
  split
  · exact .refl s
  · unfold navigateTo
    dsimp only
    split
    · exact .refl s
    · exact List.prefix_append _ _

/-- So does a completion request. -/
theorem complete_shows (s : Session) : Shows s s.complete.1 := by
  unfold complete
  split
  · dsimp only
    split
    · exact List.prefix_append _ _
    · exact .refl s
  · exact .refl s

/-- Opening a line adds its echo to the output. -/
theorem beginLine_output (s : Session) (text : String) :
    (s.beginLine text).surface.output = s.surface.output ++ [.write (s!"{s.prompt} {text}" ++ "\n")] := rfl

/-- Closing a line leaves the output. -/
theorem endLine_output (s : Session) (text : String) (result : Except Stop Bool) :
    (s.endLine text result).1.surface.output = s.surface.output := by
  unfold endLine
  split
  · rfl
  · split
    · rename_i after why h
      exact congrArg (·.1.surface.output) h.symm
    · rename_i after recorded h
      exact congrArg (·.1.surface.output) h.symm

/-! ## Runs and submissions -/

/-- Submitting the input line adds to the output, if submitting a line does. -/
theorem submitInputBy_shows {submit : Submit} (hsubmit : ∀ s line, Shows s (submit s line).1) (s : Session) :
    Shows s (submitInputBy submit s).1 := by
  have hcleared := writeInput_shows s ""
  unfold submitInputBy
  split
  · rename_i cleared f h
    rwa [h] at hcleared
  · rename_i cleared h
    rw [h] at hcleared
    exact hcleared.trans (hsubmit cleared _)

/-- The answer to a request adds to the output, if submitting a line does. -/
theorem answer_shows {submit : Submit} (hsubmit : ∀ s line, Shows s (submit s line).1) (s : Session)
    (script : Script) : Shows s (s.answer submit script).1 := by
  cases script with
  | done _ | stop _ | look _ | setPrompt _ _ | record _ _ | register _ _ | unregister _ _ => exact .refl s
  | write _ _ | clear _ => exact send_shows s _
  | hide _ => exact hide_shows s
  | clearHistory _ => exact clearHistory_shows s
  | paint colors _ => exact paint_shows s colors
  | setInput text _ => exact setInput_shows s text
  | inputChanged text _ => exact inputChanged_shows s text
  | submit line _ => exact hsubmit s line
  | submitInput _ => exact submitInputBy_shows hsubmit s
  | navigate direction _ =>
    simp only [answer]
    exact navigate_shows s direction
  | complete _ => exact complete_shows s

/-- So does a run. -/
theorem run_shows {depth : Nat} (hsubmit : ∀ s line, Shows s (submitWithin depth s line).1) (script : Script)
    (s : Session) : Shows s (run (submitWithin depth) script s).1 := by
  have hone : ∀ m : Moment, m.depth = depth → Shows m.session m.answered.1 := by
    intro m hdepth
    rw [Moment.answered, hdepth]
    exact answer_shows hsubmit m.session m.script
  exact Moment.run_related (R := fun _ s s' => Shows s s') hone (fun h h' => h.trans h') ⟨depth, script, s⟩ rfl

end Session

end CommandConsole
