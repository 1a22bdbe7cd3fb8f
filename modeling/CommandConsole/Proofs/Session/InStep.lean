import CommandConsole.Proofs.Completion.Sound
import CommandConsole.Proofs.Session.Moment

/-!
# The input line and the cycle

As long as a completion cycle lasts, the input line holds what the session wrote last, and that is the line that the
cycle shows (`Session.InStep`). Most requests change none of the three (`SameLine`); the others keep them in step one by
one (`answer_inStep`), and so do runs (`run_inStep`) and whatever lies inside of them (`inside_inStep`). The cleared
input line is the delicate point: it is no line that a cycle shows, and it stays until the submission ends the cycle.
That it does is due to the line that is submitted, which was shown and is therefore not blank.
-/

namespace CommandConsole

namespace Session

/-! ## What has nothing to do with the input line -/

/-- Two sessions with the same input line, the same cycle and the same text written last. -/
structure SameLine (s s' : Session) : Prop where
  input : s'.surface.input = s.surface.input
  cycle : s'.completion.cycle = s.completion.cycle
  lastWritten : s'.lastWritten = s.lastWritten

/-- A session has its own line. -/
theorem SameLine.refl (s : Session) : SameLine s s := ⟨rfl, rfl, rfl⟩

/-- Output does not change the line. -/
theorem send_sameLine (s : Session) (o : Output) : SameLine s (s.send o) := ⟨rfl, rfl, rfl⟩

/-- Colours do not change the line. -/
theorem paint_sameLine (s : Session) (colors : Colors) : SameLine s (s.paint colors) := by
  refine ⟨?_, rfl, rfl⟩
  show (s.surface.setColors _).input = s.surface.input
  unfold Surface.setColors
  split <;> rfl

/-- The exit handler does not change the line. -/
theorem hide_sameLine (s : Session) : SameLine s s.hide.1 := by
  unfold hide
  split <;> exact ⟨rfl, rfl, rfl⟩

/-- What is done to the history does not change the line. -/
theorem onHistory_sameLine {α : Type} (s : Session) (step : Step History α) : SameLine s (s.onHistory step).1 :=
  ⟨rfl, rfl, rfl⟩

/-- Emptying the history does not change the line. -/
theorem clearHistory_sameLine (s : Session) : SameLine s s.clearHistory.1 := by
  unfold clearHistory
  split
  · rename_i after hclear
    have hafter := congrArg Prod.fst hclear
    subst hafter
    exact ⟨rfl, rfl, rfl⟩
  · exact onHistory_sameLine s _

/-- Closing the execution of a line does not change the line. -/
theorem endLine_sameLine (s : Session) (text : String) (result : Except Stop Bool) :
    SameLine s (s.endLine text result).1 := by
  unfold endLine
  split
  · exact ⟨rfl, rfl, rfl⟩
  · have hrecord : SameLine s (s.record text).1 := onHistory_sameLine s _
    split
    · rename_i after why h
      rw [h] at hrecord
      exact hrecord
    · rename_i after recorded h
      rw [h] at hrecord
      exact hrecord

/-! ## In step -/

/-- **The cycle is in step with the input line**: it is sound, and the input line is what the session wrote last and
what the cycle shows. -/
structure InStep (s : Session) : Prop where
  sound : ∀ c, s.completion.cycle = some c → c.Sound
  written : ∀ c, s.completion.cycle = some c → s.lastWritten = some c.shown
  shown : ∀ c, s.completion.cycle = some c → s.surface.input = c.shown

/-- Without a cycle there is nothing to be in step with. -/
theorem inStep_of_idle {s : Session} (h : s.completion.cycle = none) : s.InStep := by
  constructor <;> intro c hc <;> rw [h] at hc <;> cases hc

/-- What has the same line is as much in step. -/
theorem InStep.of_sameLine {s s' : Session} (h : s.InStep) (hsame : SameLine s s') : s'.InStep where
  sound c hc := h.sound c (hsame.cycle ▸ hc)
  written c hc := hsame.lastWritten.trans (h.written c (hsame.cycle ▸ hc))
  shown c hc := hsame.input.trans (h.shown c (hsame.cycle ▸ hc))

/-- A blank input line goes with no cycle. -/
theorem InStep.idle_of_blank {s : Session} (h : s.InStep) (hblank : allBlank s.surface.input = true) :
    s.completion.cycle = none := by
  cases hcycle : s.completion.cycle with
  | none => rfl
  | some c =>
    rw [h.shown c hcycle, (h.sound c hcycle).shown_notBlank] at hblank
    cases hblank

/-- An edit that is reported leaves the cycle in step: it ends the cycle, unless the text is what the session wrote
itself. -/
theorem InStep.edited {s s' : Session} (h : s.InStep) (hcycle : s'.completion.cycle = s.completion.cycle)
    (hlast : s'.lastWritten = s.lastWritten) : (s'.inputChanged s'.surface.input).InStep := by
  unfold inputChanged
  split
  · rename_i hecho
    have hshown : ∀ c, s.completion.cycle = some c → s'.surface.input = c.shown := by
      intro c hc
      rw [hlast, h.written c hc] at hecho
      exact (Option.some.inj hecho).symm
    exact ⟨fun c hc => h.sound c (hcycle ▸ hc), fun c hc => hlast.trans (h.written c (hcycle ▸ hc)),
      fun c hc => hshown c (hcycle ▸ hc)⟩
  · exact inStep_of_idle rfl

/-- A report leaves the cycle in step, whatever it tells. -/
theorem InStep.inputChanged {s : Session} (h : s.InStep) (text : String) : (s.inputChanged text).InStep := by
  unfold Session.inputChanged
  split
  · exact h
  · exact inStep_of_idle rfl

/-- Moving through the history ends the cycle, unless the direction is none. -/
theorem InStep.navigate {s : Session} (h : s.InStep) (direction : Value) : (s.navigate direction).1.InStep := by
  unfold Session.navigate
  split
  · exact h
  · apply inStep_of_idle
    simp only [navigateTo]
    split <;> rfl

/-- A completion request shows what the cycle shows. -/
theorem InStep.complete {s : Session} (h : s.InStep) : s.complete.1.InStep := by
  unfold Session.complete
  split
  · rcases Completion.complete_shown h.sound s.surface.input with ⟨hcycle, hnone⟩ | ⟨text, htext, hshown⟩
    · have hsame : SameLine s { s with
          completion := (s.completion.complete s.surface.input).state
          notes := s.notes ++ (s.completion.complete s.surface.input).notes } := ⟨rfl, hcycle, rfl⟩
      dsimp only
      split
      · rename_i line hline
        exact absurd hline (hnone line)
      · exact h.of_sameLine hsame
    · dsimp only
      rw [htext]
      exact ⟨fun c hc => (hshown c hc).1, fun c hc => congrArg some (hshown c hc).2, fun c hc => (hshown c hc).2⟩
  · exact h

/-! ## Submissions -/

/-- What a line runs begins without a cycle. -/
theorem call?_idle {s begun : Session} {line : String} {program : Script} (h : s.call? line = some (program, begun)) :
    begun.completion.cycle = none := by
  rw [(call?_some h).2]
  rfl

/-- What is told does not change the line. -/
theorem Told.sameLine {s s' : Session} (h : Told s s') : SameLine s s' := by
  obtain ⟨_, _, rfl⟩ := h
  exact ⟨rfl, rfl, rfl⟩

/-- A submission leaves the cycle in step if the run of its program does; a blank line changes nothing, any other one
ends the cycle first. -/
theorem submitWithin_inStep {depth : Nat} {s : Session} {line : String} (hblank : allBlank line = true → s.InStep)
    (hrun : ∀ program begun, s.call? line = some (program, begun) → (run (submitWithin depth) program begun).1.InStep) :
    (submitWithin (depth + 1) s line).1.InStep := by
  have hidle : (s.beginLine (strip line)).InStep := inStep_of_idle rfl
  by_cases hline : (strip line).isEmpty = true
  · simp only [submitWithin, hline, if_true]
    exact hblank ((strip_isEmpty line).symm.trans hline)
  · simp only [submitWithin, hline, Bool.false_eq_true, if_false]
    refine InStep.of_sameLine ?_ (endLine_sameLine _ _ _)
    rcases execute_told (submitWithin depth) s (by simpa using hline) with ⟨_, htold⟩ | ⟨program, hcall, htold⟩
    · exact hidle.of_sameLine htold.sameLine
    · exact (hrun program _ hcall).of_sameLine htold.sameLine

/-- The cleared line is submitted with the line that was shown: if that is blank, there was no cycle. -/
theorem InStep.cleared {s : Session} (h : s.InStep) (hblank : allBlank s.surface.input = true) :
    (s.writeInput "").1.InStep :=
  inStep_of_idle (h.idle_of_blank hblank)

/-! ## Requests -/

/-- A text that is put into the input line leaves the cycle in step if it is reported or was there already. -/
theorem InStep.setInput {s : Session} (h : s.InStep) {text : String}
    (hloud : s.surface.reports = true ∨ text = s.surface.input) : (s.setInput text).1.InStep := by
  unfold Session.setInput
  dsimp only
  split
  · exact @InStep.edited s { s with surface := s.surface.setInput text } h rfl rfl
  · rename_i hquiet
    have htext : text = s.surface.input := by
      rcases hloud with hreports | htext
      · by_contra hne
        exact hquiet ⟨hreports, hne⟩
      · exact htext
    exact h.of_sameLine ⟨htext, rfl, rfl⟩

/-- A text that is put into the input line and reported then leaves the cycle in step. -/
theorem InStep.setInput_reported {s : Session} (h : s.InStep) (text : String) :
    ((s.setInput text).1.inputChanged text).InStep := by
  have hedited := @InStep.edited s { s with surface := s.surface.setInput text } h rfl rfl
  unfold Session.setInput
  dsimp only
  split
  · exact hedited.inputChanged text
  · exact hedited

/-- The answer to a request leaves the cycle in step, if a change of the input line is reported at once, and a
submission leaves it in step. -/
theorem answer_inStep {submit : Submit} {s : Session} {script : Script} (h : s.InStep)
    (hloud : ∀ text next, script = .setInput text next → s.surface.reports = true ∨ text = s.surface.input)
    (hsubmit : ∀ line next, script = .submit line next → (submit s line).1.InStep)
    (hsubmitInput : ∀ next, script = .submitInput next → (submitInputBy submit s).1.InStep) :
    (s.answer submit script).1.InStep := by
  cases script with
  | done _ | stop _ | look _ => exact h
  | write _ _ | clear _ => exact h.of_sameLine (send_sameLine s _)
  | hide _ => exact h.of_sameLine (hide_sameLine s)
  | clearHistory _ => exact h.of_sameLine (clearHistory_sameLine s)
  | setPrompt _ _ | register _ _ | unregister _ _ => exact h.of_sameLine ⟨rfl, rfl, rfl⟩
  | paint colors _ => exact h.of_sameLine (paint_sameLine s colors)
  | setInput text next => exact h.setInput (hloud text next rfl)
  | inputChanged text _ => exact h.inputChanged text
  | submit line next => exact hsubmit line next rfl
  | submitInput next => exact hsubmitInput next rfl
  | navigate direction _ =>
    simp only [answer]
    exact h.navigate direction
  | complete _ =>
    simp only [answer]
    exact h.complete
  | record _ _ => exact h.of_sameLine (onHistory_sameLine s _)

end Session

/-! ## Runs -/

/-- A moment at which nothing goes wrong with the input line: a change that the surface does not report is reported by
the script with its next request, and where the input line is submitted during a cycle, the surface lets it be cleared
and there is a level of submissions left. -/
structure Moment.Regular (m : Moment) : Prop where
  reported : m.Reported
  cleared : ∀ next c, m.script = .submitInput next → m.session.completion.cycle = some c →
    m.session.surface.faultOfInput "" = .ok () ∧ ∃ depth, m.depth = depth + 1

/-- Nothing goes wrong at a moment at which the input line is neither changed nor submitted. -/
theorem Moment.regular_of_script {m : Moment} (hset : ∀ text next, m.script ≠ .setInput text next)
    (hsubmit : ∀ next, m.script ≠ .submitInput next) : m.Regular where
  reported _ text next hscript := absurd hscript (hset text next)
  cleared next _ hscript _ := absurd hscript (hsubmit next)

/-- Nothing goes wrong with the input line in the run that a moment begins. -/
def Moment.RegularThroughout (m : Moment) : Prop := ∀ m', m.Inside m' → m'.Regular

namespace Session

open Moment

/-- What lies ahead of a later moment lies ahead of an earlier one. -/
theorem regularThroughout_of_next {m m' : Moment} (h : m.RegularThroughout) (hnext : m.Next m') :
    m'.RegularThroughout :=
  fun m'' hinside => h m'' (.head hnext hinside)

/-- Nothing goes wrong if nothing does at once, nor at what comes next. -/
theorem regularThroughout_of {m : Moment} (h : m.Regular) (hnext : ∀ m', m.Next m' → m'.RegularThroughout) :
    m.RegularThroughout := by
  intro m' hinside
  rcases Relation.ReflTransGen.cases_head hinside with rfl | ⟨m'', hnext', hrest⟩
  · exact h
  · exact hnext m'' hnext' m' hrest

/-- Runs with a number of levels of submissions leave the cycle in step. -/
def RunsInStep (depth : Nat) : Prop :=
  ∀ m : Moment, m.depth = depth → m.RegularThroughout → m.session.InStep → m.run.1.InStep

/-- The submission that a script begins with leaves the cycle in step, if runs one level below do. -/
theorem submission_inStep {m : Moment} (hregular : m.RegularThroughout)
    (hbelow : ∀ depth, m.depth = depth + 1 → RunsInStep depth) {s : Session} {line : String}
    (hsubmission : m.session.submission? m.script = some (s, line)) (hblank : allBlank line = true → s.InStep)
    (hlevel : m.depth = 0 → s.InStep) : (submitWithin m.depth s line).1.InStep := by
  cases hdepth : m.depth with
  | zero => exact hlevel hdepth
  | succ depth =>
    refine submitWithin_inStep hblank fun program begun hcall => ?_
    have hentered : m.Next ⟨depth, program, begun⟩ := .entered hdepth hsubmission hcall
    refine hbelow depth hdepth ⟨depth, program, begun⟩ rfl (regularThroughout_of_next hregular hentered) ?_
    exact inStep_of_idle (call?_idle hcall)

/-- Submitting the input line leaves the cycle in step, if runs one level below do. -/
theorem submitInput_inStep {m : Moment} (hregular : m.RegularThroughout) (hin : m.session.InStep)
    (hbelow : ∀ depth, m.depth = depth + 1 → RunsInStep depth) {next : Except Fault Bool → Script}
    (hscript : m.script = .submitInput next) : (submitInputBy (submitWithin m.depth) m.session).1.InStep := by
  have hcleared := (hregular m .refl).cleared next
  cases hclear : m.session.surface.faultOfInput "" with
  | error f =>
    simp only [submitInputBy, writeInput, hclear]
    refine inStep_of_idle (Option.eq_none_iff_forall_ne_some.mpr fun c hc => ?_)
    rw [(hcleared c hscript hc).1] at hclear
    cases hclear
  | ok =>
    have hsubmission :
        m.session.submission? m.script = some ((m.session.writeInput "").1, m.session.surface.input) := by
      rw [hscript]
      exact submission?_submitInput_eq_some.mpr ⟨hclear, rfl, rfl⟩
    simp only [submitInputBy, writeInput, hclear]
    refine submission_inStep hregular hbelow hsubmission hin.cleared fun hzero => ?_
    refine inStep_of_idle (Option.eq_none_iff_forall_ne_some.mpr fun c hc => ?_)
    obtain ⟨depth, hdepth⟩ := (hcleared c hscript hc).2
    omega

/-- The answer to the first request of a moment leaves the cycle in step, if runs one level below do. -/
theorem moment_answer_inStep {m : Moment} (hregular : m.RegularThroughout) (hin : m.session.InStep)
    (hbelow : ∀ depth, m.depth = depth + 1 → RunsInStep depth) (hloud : ¬ m.Silent) :
    (m.session.answer (submitWithin m.depth) m.script).1.InStep := by
  apply answer_inStep hin
  · intro text next hscript
    by_contra hnot
    rw [not_or, Bool.not_eq_true] at hnot
    exact hloud ⟨text, next, hscript, hnot⟩
  · intro line next hscript
    exact submission_inStep hregular hbelow (by rw [hscript]; rfl) (fun _ => hin) (fun _ => hin)
  · intro next hscript
    exact submitInput_inStep hregular hin hbelow hscript

/-- One moment and the next: the cycle stays in step, if runs one level below leave it so. -/
theorem next_inStep {m m' : Moment} (hnext : m.Next m') (hregular : m.RegularThroughout) (hin : m.session.InStep)
    (hbelow : ∀ depth, m.depth = depth + 1 → RunsInStep depth) : m'.session.InStep := by
  cases hnext with
  | answered hloud hanswer =>
    have h := moment_answer_inStep hregular hin hbelow hloud
    rw [hanswer] at h
    exact h
  | reported _ _ _ => exact hin.setInput_reported _
  | entered _ _ hcall => exact inStep_of_idle (call?_idle hcall)

/-- Runs leave the cycle in step if runs one level below do. The induction is on the scripts that are left of a run, of
which a reported edit takes two at once. -/
theorem runsInStep_of_below {depth : Nat} (hbelow : ∀ below, depth = below + 1 → RunsInStep below) :
    RunsInStep depth := by
  have hrun : ∀ script (m : Moment), m.script = script → m.depth = depth → m.RegularThroughout → m.session.InStep →
      m.run.1.InStep := by
    intro script
    induction script using (follows_wf.transGen).induction with
    | _ script ih =>
      intro m hscript hdepth hregular hin
      rw [← hdepth] at hbelow
      rcases run_cases (hregular m .refl).reported with ⟨hloud, hrun⟩ | ⟨m', hnext, hdepth', hfollows, hrun⟩
      · rw [hrun]
        exact moment_answer_inStep hregular hin hbelow hloud
      · rw [hrun]
        exact ih m'.script (hscript ▸ hfollows) m' rfl (hdepth'.trans hdepth)
          (regularThroughout_of_next hregular hnext) (next_inStep hnext hregular hin hbelow)
  exact fun m => hrun m.script m rfl

/-- Runs leave the cycle in step. -/
theorem run_inStep (depth : Nat) : RunsInStep depth := by
  induction depth with
  | zero => exact runsInStep_of_below fun below h => absurd h (Nat.succ_ne_zero below).symm
  | succ depth ih =>
    refine runsInStep_of_below fun below h => ?_
    cases h
    exact ih

/-- Every moment inside a run has the cycle in step. -/
theorem inside_inStep {m m' : Moment} (hinside : m.Inside m') (hregular : m.RegularThroughout)
    (hin : m.session.InStep) : m'.session.InStep := by
  induction hinside using Relation.ReflTransGen.head_induction_on with
  | refl => exact hin
  | head hnext _ ih =>
    exact ih (regularThroughout_of_next hregular hnext)
      (next_inStep hnext hregular hin fun depth _ => run_inStep depth)

end Session

end CommandConsole
