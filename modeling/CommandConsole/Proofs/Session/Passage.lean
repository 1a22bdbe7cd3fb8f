import CommandConsole.Proofs.History.Replay
import CommandConsole.Proofs.Session.Moment

/-!
# What a run passes through

`Moment.passes` lists the moments that a run passes through itself, one for each request of its script; a line that is
submitted is one request, whatever its action does. What relates the sessions before and after each request, and
composes, relates those before and after the run (`run_related`). Most requests leave the entries of the history alone,
and the mark that the running line is not to be recorded (`answer_sameRecord`); a submission does to them what the
submitted line does (`answer_submission`).
-/

namespace CommandConsole

namespace Moment

/-- The answer to the first request of a moment. -/
def answered (m : Moment) : Session × Script.Then := m.session.answer (Session.submitWithin m.depth) m.script

/-- The moments that a run passes through, one for each request of its script; those inside the actions of submitted
lines are left out. -/
def passes (m : Moment) : List Moment :=
  m :: match _h : m.answered with
    | (after, .goesOn rest) => passes ⟨m.depth, rest, after⟩
    | (_, .ended _) => []
termination_by Session.follows_wf.wrap m.script
decreasing_by exact ⟨_, _, congrArg Prod.snd _h⟩

/-- A run that goes on passes through what the rest of its script passes through. -/
theorem passes_of_goesOn {m : Moment} {after : Session} {rest : Script} (h : m.answered = (after, .goesOn rest)) :
    m.passes = m :: passes ⟨m.depth, rest, after⟩ ∧ m.run = run ⟨m.depth, rest, after⟩ := by
  constructor
  · rw [passes]
    split
    · rename_i h'
      rw [h] at h'
      cases h'
      rfl
    · rename_i h'
      rw [h] at h'
      cases h'
  · rw [answered] at h
    rw [run, Session.run_eq, h]
    rfl

/-- A run that ends passes through nothing further. -/
theorem passes_of_ended {m : Moment} {after : Session} {outcome : Except Stop (Option Verdict)}
    (h : m.answered = (after, .ended outcome)) : m.passes = [m] ∧ m.run = (after, outcome) := by
  constructor
  · rw [passes]
    split
    · rename_i h'
      rw [h] at h'
      cases h'
    · rfl
  · rw [answered] at h
    rw [run, Session.run_eq, h]

/-- From a moment that a run passes through on, the run is the run of that moment, on the same level. -/
theorem run_of_passes {before later : List Moment} {passed : Moment} :
    ∀ {m : Moment}, m.passes = before ++ passed :: later →
      passed.passes = passed :: later ∧ passed.run = m.run ∧ passed.depth = m.depth := by
  induction before with
  | nil =>
    intro m h
    have hfirst : m = passed := by
      rw [passes] at h
      exact (List.cons.inj h).1
    rw [← hfirst] at h ⊢
    exact ⟨h, rfl, rfl⟩
  | cons first before ih =>
    intro m h
    rcases hanswer : m.answered with ⟨after, outcome | rest⟩
    · rw [(passes_of_ended hanswer).1] at h
      simp at h
    · obtain ⟨hpasses, hrun⟩ := passes_of_goesOn hanswer
      rw [hpasses, List.cons_append] at h
      obtain ⟨hlater, hsame, hdepth⟩ := ih (List.cons.inj h).2
      exact ⟨hlater, hsame.trans hrun.symm, hdepth⟩

/-- What relates the sessions before and after a request, along with the moment, and composes, relates the sessions
before and after a run, along with the moments that it passes through. -/
theorem run_related {R : List Moment → Session → Session → Prop} {depth : Nat}
    (hone : ∀ m : Moment, m.depth = depth → R [m] m.session m.answered.1)
    (hmore : ∀ {ms ms' : List Moment} {s s' s'' : Session}, R ms s s' → R ms' s' s'' → R (ms ++ ms') s s'') :
    ∀ m : Moment, m.depth = depth → R m.passes m.session m.run.1 := by
  intro m
  induction m using passes.induct with
  | case1 m ih =>
    intro hdepth
    have hfirst := hone m hdepth
    rcases hanswer : m.answered with ⟨after, outcome | rest⟩
    · obtain ⟨hpasses, hrun⟩ := passes_of_ended hanswer
      rw [hanswer] at hfirst
      rw [hpasses, hrun]
      exact hfirst
    · obtain ⟨hpasses, hrun⟩ := passes_of_goesOn hanswer
      rw [hanswer] at hfirst
      rw [hpasses, hrun]
      exact hmore hfirst (ih after rest hanswer hdepth)

/-- The history is emptied, and the mark is set that the running line is not to be recorded. -/
def Clears (m : Moment) : Prop := ∃ next, m.script = .clearHistory next ∧ m.session.clearHistory.2 = .ok ()

/-- A line that is not blank is submitted, and there is a level of submissions left for it. -/
def Submits (m : Moment) : Prop :=
  ∃ depth s line, m.depth = depth + 1 ∧ m.session.submission? m.script = some (s, line) ∧ (strip line).isEmpty = false

/-- Only a request to empty the history empties it. -/
theorem not_clears {m : Moment} (h : ∀ next, m.script ≠ .clearHistory next) : ¬ m.Clears :=
  fun ⟨next, hscript, _⟩ => h next hscript

/-- Only a submission submits a line. -/
theorem not_submits {m : Moment} (h : m.session.submission? m.script = none) : ¬ m.Submits := by
  rintro ⟨_, _, _, _, hsome, _⟩
  rw [h] at hsome
  cases hsome

end Moment

namespace Session

/-! ## What leaves the entries and the mark alone -/

/-- Two sessions with the same entries, the same room for them, and the same mark for the running line. -/
structure SameRecord (s s' : Session) : Prop where
  entries : s'.history.entries = s.history.entries
  capacity : s'.history.capacity = s.history.capacity
  skipRecord : s'.skipRecord = s.skipRecord

theorem SameRecord.refl (s : Session) : SameRecord s s := ⟨rfl, rfl, rfl⟩

/-- What is told does not touch the history. -/
theorem Told.sameRecord {s s' : Session} (h : Told s s') : SameRecord s s' := by
  obtain ⟨_, _, rfl⟩ := h
  exact ⟨rfl, rfl, rfl⟩

/-- The exit handler does not touch the history. -/
theorem hide_sameRecord (s : Session) : SameRecord s s.hide.1 := by
  unfold hide
  split <;> exact ⟨rfl, rfl, rfl⟩

/-- A report of an edit does not touch the history. -/
theorem inputChanged_sameRecord (s : Session) (text : String) : SameRecord s (s.inputChanged text) := by
  unfold inputChanged
  split <;> exact ⟨rfl, rfl, rfl⟩

/-- Putting a text into the input line does not touch the history. -/
theorem setInput_sameRecord (s : Session) (text : String) : SameRecord s (s.setInput text).1 := by
  unfold setInput
  dsimp only
  split
  · obtain ⟨hentries, hcapacity, hskip⟩ :=
      inputChanged_sameRecord { s with surface := s.surface.setInput text } text
    exact ⟨hentries, hcapacity, hskip⟩
  · exact ⟨rfl, rfl, rfl⟩

/-- Moving through the history does not touch its entries. -/
theorem navigate_sameRecord (s : Session) (direction : Value) : SameRecord s (s.navigate direction).1 := by
  unfold navigate
  split
  · exact .refl s
  · rename_i d _
    obtain ⟨hedited, hentries⟩ := History.navigate_edited s.history d s.surface.input
    unfold navigateTo
    dsimp only
    split <;> exact ⟨hentries, hedited.capacity, rfl⟩

/-- A completion request does not touch the history. -/
theorem complete_sameRecord (s : Session) : SameRecord s s.complete.1 := by
  unfold complete
  split
  · dsimp only
    split <;> exact ⟨rfl, rfl, rfl⟩
  · exact .refl s

/-- The answer to a request leaves the entries and the mark alone, unless it empties the history, records a line or
submits one. -/
theorem answer_sameRecord {submit : Submit} {s : Session} {script : Script}
    (hclear : ∀ next, script ≠ .clearHistory next) (hrecord : ∀ line next, script ≠ .record line next)
    (hsubmit : s.submission? script = none) : SameRecord s (s.answer submit script).1 := by
  cases script with
  | done _ | stop _ | look _ => exact .refl s
  | write _ _ | clear _ | setPrompt _ _ | paint _ _ | register _ _ | unregister _ _ => exact ⟨rfl, rfl, rfl⟩
  | hide _ => exact hide_sameRecord s
  | clearHistory next => exact absurd rfl (hclear next)
  | setInput text _ => exact setInput_sameRecord s text
  | inputChanged text _ => exact inputChanged_sameRecord s text
  | submit _ _ => cases hsubmit
  | submitInput _ =>
    obtain ⟨f, hclear⟩ := submission?_submitInput_eq_none.mp hsubmit
    simp only [answer, submitInputBy, writeInput, hclear]
    exact ⟨rfl, rfl, rfl⟩
  | navigate direction _ =>
    simp only [answer]
    exact navigate_sameRecord s direction
  | complete _ => exact complete_sameRecord s
  | record line next => exact absurd rfl (hrecord line next)

/-- A script that begins with a submission submits that line, to a session with the same entries and the same mark. -/
theorem answer_submission (submit : Submit) {s s' : Session} {script : Script} {line : String}
    (h : s.submission? script = some (s', line)) :
    SameRecord s s' ∧ (s.answer submit script).1 = (submit s' line).1 := by
  cases script with
  | submit _ _ =>
    cases h
    exact ⟨.refl s, rfl⟩
  | submitInput _ =>
    obtain ⟨hclear, rfl, rfl⟩ := submission?_submitInput_eq_some.mp h
    simp only [answer, submitInputBy, writeInput, hclear]
    exact ⟨⟨rfl, rfl, rfl⟩, trivial⟩
  | _ => cases h

/-! ## What changes them -/

/-- Emptying the history leaves no entries. -/
theorem clearHistory_entries (s : Session) : s.clearHistory.1.history.entries = [] := by
  have hcleared : (s.onHistory s.history.clear).1.history.entries = [] := by
    simp only [onHistory, History.clear, History.persist_state]
  unfold clearHistory
  split
  · rename_i after h
    rw [h] at hcleared
    exact hcleared
  · exact hcleared

/-- Emptying the history sets the mark, unless it fails. -/
theorem clearHistory_skipRecord (s : Session) :
    s.clearHistory.1.skipRecord = true ↔ s.clearHistory.2 = .ok () ∨ s.skipRecord = true := by
  unfold clearHistory
  split
  · simp
  · rename_i hstopped
    have hfailed : (s.onHistory s.history.clear).2 ≠ .ok () := fun hok =>
      hstopped (s.onHistory s.history.clear).1 (Prod.ext rfl hok)
    simp only [hfailed, false_or]
    rfl

/-- Closing the execution of a line records it, unless the mark is set. -/
theorem endLine_history (s : Session) (text : String) (result : Except Stop Bool) :
    (s.endLine text result).1.history = if s.skipRecord then s.history else (s.history.record text).state := by
  unfold endLine
  split
  · rfl
  · split
    · rename_i after why h
      exact congrArg (·.1.history) h.symm
    · rename_i after recorded h
      exact congrArg (·.1.history) h.symm

/-- Closing the execution of a line takes the mark away. -/
theorem endLine_skipRecord (s : Session) (text : String) (result : Except Stop Bool) :
    (s.endLine text result).1.skipRecord = false := by
  unfold endLine
  split
  · rfl
  · rename_i hmark
    have hunmarked : s.skipRecord = false := by simpa using hmark
    have hrecord : (s.record text).1.skipRecord = false := hunmarked
    split
    · rename_i after why h
      rwa [h] at hrecord
    · rename_i after recorded h
      rwa [h] at hrecord

/-- A submission without a level left for it, or of a blank line, changes nothing. -/
theorem submitWithin_idle {depth : Nat} {line : String} (h : depth = 0 ∨ (strip line).isEmpty = true) (s : Session) :
    (submitWithin depth s line).1 = s := by
  cases depth with
  | zero => rfl
  | succ depth =>
    have hblank := h.resolve_left (Nat.succ_ne_zero depth)
    simp only [submitWithin, hblank, if_true]

/-- Any other submission executes the line and closes it. -/
theorem submitWithin_executed (depth : Nat) (s : Session) {line : String} (h : (strip line).isEmpty = false) :
    submitWithin (depth + 1) s line =
      (execute (submitWithin depth) (s.beginLine (strip line)) (strip line)).1.endLine (strip line)
        (execute (submitWithin depth) (s.beginLine (strip line)) (strip line)).2 := by
  simp only [submitWithin, h, Bool.false_eq_true, if_false]

end Session

open Session in
/-- What a request does to the entries and the mark: it empties the history, records a line, submits a line that is
executed, or leaves them alone. -/
theorem Moment.answered_cases (m : Moment) :
    (∃ next, m.script = .clearHistory next) ∨ (∃ line next, m.script = .record line next) ∨
      (∃ depth s line, m.depth = depth + 1 ∧ m.session.submission? m.script = some (s, line) ∧
        (strip line).isEmpty = false ∧ SameRecord m.session s ∧ m.answered.1 = (submitWithin (depth + 1) s line).1) ∨
      (¬ m.Clears ∧ ¬ m.Submits ∧ SameRecord m.session m.answered.1) := by
  by_cases hclear : ∃ next, m.script = .clearHistory next
  · exact Or.inl hclear
  by_cases hrecord : ∃ line next, m.script = .record line next
  · exact Or.inr (Or.inl hrecord)
  right; right
  have hclears : ¬ m.Clears := not_clears fun next h => hclear ⟨next, h⟩
  cases hsubmit : m.session.submission? m.script with
  | none =>
    right
    refine ⟨hclears, not_submits hsubmit, ?_⟩
    exact answer_sameRecord (fun next h => hclear ⟨next, h⟩) (fun line next h => hrecord ⟨line, next, h⟩) hsubmit
  | some submission =>
    obtain ⟨s, line⟩ := submission
    obtain ⟨hsame, hanswer⟩ := answer_submission (submitWithin m.depth) hsubmit
    by_cases hexecuted : ∃ depth, m.depth = depth + 1 ∧ (strip line).isEmpty = false
    · obtain ⟨depth, hdepth, hline⟩ := hexecuted
      refine Or.inl ⟨depth, s, line, hdepth, rfl, hline, hsame, ?_⟩
      rw [answered, hanswer, hdepth]
    · right
      refine ⟨hclears, ?_, ?_⟩
      · rintro ⟨depth, s', line', hdepth, hsome, hline⟩
        rw [hsubmit] at hsome
        cases hsome
        exact hexecuted ⟨depth, hdepth, hline⟩
      · have hidle : m.depth = 0 ∨ (strip line).isEmpty = true := by
          by_contra hnot
          rw [not_or, Bool.not_eq_true] at hnot
          exact hexecuted ⟨m.depth - 1, by omega, hnot.2⟩
        rw [answered, hanswer, submitWithin_idle hidle]
        exact hsame

end CommandConsole
