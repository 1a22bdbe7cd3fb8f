import CommandConsole.Proofs.Session.Completed
import CommandConsole.Proofs.Session.Contained

/-!
# Asking to leave

A command asks to leave by calling the exit handler. `Session.Asks` says of a line that its execution does so: the program
of its command does, or a line that the program submits, whatever becomes of the command afterwards. The handler is called
at these requests and nowhere else, so it is called during a submission exactly if the line asks to leave
(`exits_lt_iff_asks`). Most requests leave it alone, and with it the way in which writes to the store fail, and the
registered commands (`Session.Undisturbed`).
-/

namespace CommandConsole

/-- Counting a question to a completer leaves the commands as they are. -/
theorem Registry.commands_noteAsked (r : Registry) (key : String) : (r.noteAsked key).commands = r.commands := by
  rw [commands, noteAsked, List.map_map, commands]
  refine List.map_congr_left fun e _ => ?_
  dsimp only [Function.comp]
  split <;> rfl

/-- A completion request leaves the commands as they are. -/
theorem Completion.complete_commands (s : Completion) (input : String) :
    (s.complete input).state.registry.commands = s.registry.commands := by
  unfold complete
  dsimp only
  split
  · unfold completeName
    split
    · rfl
    · dsimp only
      rw [apply_registry]
  · unfold completeArgument
    dsimp only
    split
    · rfl
    · split
      · rfl
      · split
        · exact Registry.commands_noteAsked _ _
        · exact Registry.commands_noteAsked _ _
        · split
          · exact Registry.commands_noteAsked _ _
          · dsimp only
            rw [apply_registry]
            exact Registry.commands_noteAsked _ _

namespace Session

open Moment

/-! ## What most requests leave alone -/

/-- A session with the same exit handler, which was not called; writes to its store fail in the same way, and it has no
further commands. -/
structure Undisturbed (s s' : Session) : Prop where
  exitHandler : s'.exitHandler = s.exitHandler
  exits : s'.exits = s.exits
  writeFault : s'.history.storage.writeFault = s.history.storage.writeFault
  commands : ∀ c ∈ s'.registry.commands, c ∈ s.registry.commands

theorem Undisturbed.refl (s : Session) : Undisturbed s s := ⟨rfl, rfl, rfl, fun _ => id⟩

theorem Undisturbed.trans {s s' s'' : Session} (h : Undisturbed s s') (h' : Undisturbed s' s'') : Undisturbed s s'' :=
  ⟨h'.exitHandler.trans h.exitHandler, h'.exits.trans h.exits, h'.writeFault.trans h.writeFault,
    fun c hc => h.commands c (h'.commands c hc)⟩

theorem inputChanged_undisturbed (s : Session) (text : String) : Undisturbed s (s.inputChanged text) := by
  unfold inputChanged
  split <;> exact ⟨rfl, rfl, rfl, fun _ => id⟩

theorem setInput_undisturbed (s : Session) (text : String) : Undisturbed s (s.setInput text).1 := by
  have hchanged : Undisturbed s { s with surface := s.surface.setInput text } := ⟨rfl, rfl, rfl, fun _ => id⟩
  unfold setInput
  dsimp only
  split
  · exact hchanged.trans (inputChanged_undisturbed _ text)
  · exact hchanged

theorem navigate_undisturbed (s : Session) (direction : Value) : Undisturbed s (s.navigate direction).1 := by
  unfold navigate
  split
  · exact .refl s
  · rename_i d _
    have hstorage := (History.navigate_edited s.history d s.surface.input).1.storage
    unfold navigateTo
    dsimp only
    split <;> exact ⟨rfl, rfl, congrArg Storage.writeFault hstorage, fun _ => id⟩

theorem complete_undisturbed (s : Session) : Undisturbed s s.complete.1 := by
  have hcommands := s.completion.complete_commands s.surface.input
  unfold complete
  split
  · dsimp only
    split <;> exact ⟨rfl, rfl, rfl, fun c hc => hcommands ▸ hc⟩
  · exact .refl s

/-- An operation on the history concerns the history only. -/
theorem onHistory_undisturbed (s : Session) {α : Type} {step : Step History α}
    (hstep : s.history.SamePlace step.state) : Undisturbed s (s.onHistory step).1 :=
  ⟨rfl, rfl, hstep.storage.writeFault, fun _ => id⟩

theorem record_undisturbed (s : Session) (line : String) : Undisturbed s (s.record line).1 :=
  onHistory_undisturbed s (History.perform_samePlace s.history (.record line))

theorem clearHistory_undisturbed (s : Session) : Undisturbed s s.clearHistory.1 := by
  have hcleared : Undisturbed s (s.onHistory s.history.clear).1 :=
    onHistory_undisturbed s (History.perform_samePlace s.history .clear)
  unfold clearHistory
  split
  · rename_i after h
    rw [h] at hcleared
    exact ⟨hcleared.exitHandler, hcleared.exits, hcleared.writeFault, hcleared.commands⟩
  · exact hcleared

theorem unregister_undisturbed (s : Session) (name : String) : Undisturbed s (s.unregister name).1 := by
  refine ⟨rfl, rfl, rfl, fun c hc => ?_⟩
  obtain ⟨e, he, rfl⟩ := List.mem_map.mp hc
  exact List.mem_map_of_mem (List.mem_filter.mp he).1

/-- The answer to a request leaves all of this alone, unless it calls the exit handler, registers a command or submits a
line. -/
theorem answer_undisturbed {submit : Submit} {s : Session} {script : Script} (hhide : ∀ next, script ≠ .hide next)
    (hregister : ∀ c next, script ≠ .register c next) (hsubmit : s.submission? script = none) :
    Undisturbed s (s.answer submit script).1 := by
  cases script with
  | done _ | stop _ | look _ => exact .refl s
  | write _ _ | clear _ | setPrompt _ _ | paint _ _ => exact ⟨rfl, rfl, rfl, fun _ => id⟩
  | hide next => exact absurd rfl (hhide next)
  | clearHistory _ => exact clearHistory_undisturbed s
  | setInput text _ => exact setInput_undisturbed s text
  | inputChanged text _ => exact inputChanged_undisturbed s text
  | submit _ _ => cases hsubmit
  | submitInput _ =>
    obtain ⟨f, hclear⟩ := submission?_submitInput_eq_none.mp hsubmit
    simp only [answer, submitInputBy, writeInput, hclear]
    exact ⟨rfl, rfl, rfl, fun _ => id⟩
  | navigate direction _ =>
    simp only [answer]
    exact navigate_undisturbed s direction
  | complete _ => exact complete_undisturbed s
  | record line _ => exact record_undisturbed s line
  | register c next => exact absurd rfl (hregister c next)
  | unregister name _ => exact unregister_undisturbed s name

end Session

/-! ## Calls of the exit handler -/

/-- The script is about to call the exit handler, or to submit a line that asks to leave. -/
def Moment.Asks (asks : Session → String → Prop) (m : Moment) : Prop :=
  (∃ next, m.script = .hide next) ∨ ∃ s line, m.session.submission? m.script = some (s, line) ∧ asks s line

namespace Session

open Moment

/-- The execution of a line asks to leave: its program passes through a request to do so, be it in a line that it submits.
What the program does before and afterwards does not matter, nor whether it fails. -/
def Asks : Nat → Session → String → Prop
  | 0, _, _ => False
  | depth + 1, s, line =>
    ∃ program begun, s.call? line = some (program, begun) ∧ ∃ m ∈ Moment.passes ⟨depth, program, begun⟩, m.Asks (Asks depth)

/-- The exit handler is the same, and it was called exactly if it was asked to be. -/
structure Called (asked : Prop) (s s' : Session) : Prop where
  exitHandler : s'.exitHandler = s.exitHandler
  le : s.exits ≤ s'.exits
  lt_iff : s.exitHandler ≠ .absent → (s.exits < s'.exits ↔ asked)

/-- What leaves the exit handler alone was not asked to call it. -/
theorem Undisturbed.called {s s' : Session} (h : Undisturbed s s') {asked : Prop} (hnot : ¬ asked) : Called asked s s' :=
  ⟨h.exitHandler, Nat.le_of_eq h.exits.symm, fun _ => by simp only [h.exits, Nat.lt_irrefl, hnot]⟩

theorem Called.trans {asked asked' : Prop} {s s' s'' : Session} (h : Called asked s s') (h' : Called asked' s' s'') :
    Called (asked ∨ asked') s s'' := by
  refine ⟨h'.exitHandler.trans h.exitHandler, h.le.trans h'.le, fun hhandler => ?_⟩
  have hfirst := h.lt_iff hhandler
  have hsecond := h'.lt_iff (h.exitHandler ▸ hhandler)
  have hle := h.le
  have hle' := h'.le
  rw [← hfirst, ← hsecond]
  omega

/-- What is done before and after leaves the handler alone. -/
theorem Called.within {asked : Prop} {s t t' s' : Session} (h : Called asked t t') (hbefore : Undisturbed s t)
    (hafter : Undisturbed t' s') : Called asked s s' := by
  have hall := ((hbefore.called not_false).trans h).trans (hafter.called not_false)
  rwa [false_or, or_false] at hall

end Session

end CommandConsole
