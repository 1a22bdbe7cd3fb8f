import Mathlib.Logic.Relation
import CommandConsole.Proofs.Session.Program
import CommandConsole.Session.Start

/-!
# Moments of a session

What a run of a script passes through. `Session.answer` is what the console does for the first request of a script, and
a run answers one request after the other (`run_eq`), which comes to an end (`follows_wf`). A `Moment` is a session
together with the script that it is running; `Moment.Next` leads from one to the next, also into the program of a command
that is submitted, so `Moment.Inside` reaches whatever any of the scripts that are running can observe.
-/

namespace CommandConsole

/-- What comes after the answer to a request: the script has ended, or it goes on. -/
inductive Script.Then where
  | ended (outcome : Except Stop (Option Verdict))
  | goesOn (rest : Script)

namespace Session

/-- How a script goes on with the result of a submission: an interrupt ends it. -/
def resume (next : Except Fault Bool → Script) : Except Stop Bool → Script.Then
  | .error (.interrupt m) => .ended (.error (.interrupt m))
  | .error (.fault f) => .goesOn (next (.error f))
  | .ok done => .goesOn (next (.ok done))

/-- How a script goes on with the result of a request that it cannot survive the failure of. -/
def resumeIfOk {α : Type} (next : α → Script) : Except Stop α → Script.Then
  | .error why => .ended (.error why)
  | .ok a => .goesOn (next a)

/-- The answer to the first request of a script: the session after it, and how the script goes on. -/
def answer (submit : Submit) (s : Session) : Script → Session × Script.Then
  | .done verdict => (s, .ended (.ok verdict))
  | .stop why => (s, .ended (.error why))
  | .look next => (s, .goesOn (next s.view))
  | .write text next => (s.write text, .goesOn next)
  | .clear next => (s.clear, .goesOn next)
  | .hide next =>
    (s.hide.1,
      match s.hide.2 with
      | .error (.interrupt m) => .ended (.error (.interrupt m))
      | .error (.fault f) => .goesOn (next (some f))
      | .ok () => .goesOn (next none))
  | .clearHistory next => (s.clearHistory.1, resumeIfOk (fun _ => next) s.clearHistory.2)
  | .setPrompt symbol next => ({ s with prompt := symbol }, .goesOn next)
  | .paint colors next => (s.paint colors, .goesOn next)
  | .setInput text next => ((s.setInput text).1, .goesOn (next (problem? (s.setInput text).2)))
  | .inputChanged text next => (s.inputChanged text, .goesOn next)
  | .submit line next => ((submit s line).1, resume next (submit s line).2)
  | .submitInput next => ((submitInputBy submit s).1, resume next (submitInputBy submit s).2)
  | .navigate direction next => ((s.navigate direction).1, .goesOn (next (s.navigate direction).2))
  | .complete next => (s.complete.1, resumeIfOk next s.complete.2)
  | .record line next => ((s.record line).1, resumeIfOk next (s.record line).2)
  | .register candidate next => ((s.register candidate).1, .goesOn (next (faultOf (s.register candidate).2)))
  | .unregister name next => ((s.unregister name).1, .goesOn (next (s.unregister name).2.isSome))

/-- A run answers the first request of its script and goes on with the rest, if there is any. -/
theorem run_eq (submit : Submit) (script : Script) (s : Session) :
    run submit script s =
      match s.answer submit script with
      | (after, .ended outcome) => (after, outcome)
      | (after, .goesOn rest) => run submit rest after := by
  cases script with
  | hide next =>
    rw [run, answer]
    rcases s.hide with ⟨after, (f | m) | _⟩ <;> rfl
  | clearHistory next =>
    rw [run, answer]
    rcases s.clearHistory with ⟨after, _ | _⟩ <;> rfl
  | submit line next =>
    rw [run, answer]
    rcases submit s line with ⟨after, (f | m) | _⟩ <;> rfl
  | submitInput next =>
    rw [run, answer]
    rcases submitInputBy submit s with ⟨after, (f | m) | _⟩ <;> rfl
  | complete next =>
    rw [run, answer]
    rcases s.complete with ⟨after, _ | _⟩ <;> rfl
  | record line next =>
    rw [run, answer]
    rcases s.record line with ⟨after, _ | _⟩ <;> rfl
  | _ => rfl

end Session

/-- A script is what another one goes on with after some answer to its first request. -/
def Script.Follows (rest script : Script) : Prop :=
  ∃ (submit : Session.Submit) (s : Session), (s.answer submit script).2 = .goesOn rest

namespace Session

/-- Going on after the result of a submission is going on with some answer. -/
theorem resume_goesOn {next : Except Fault Bool → Script} {result : Except Stop Bool} {rest : Script}
    (h : resume next result = .goesOn rest) : ∃ a, rest = next a := by
  unfold resume at h
  split at h <;> cases h
  · exact ⟨_, rfl⟩
  · exact ⟨_, rfl⟩

/-- Going on is going on with some answer. -/
theorem resumeIfOk_goesOn {α : Type} {next : α → Script} {result : Except Stop α} {rest : Script}
    (h : resumeIfOk next result = .goesOn rest) : ∃ a, rest = next a := by
  unfold resumeIfOk at h
  split at h <;> cases h
  exact ⟨_, rfl⟩

/-- No script goes on for ever. -/
theorem follows_acc : ∀ script : Script, Acc Script.Follows script
  | .done _ => by
    refine Acc.intro _ fun rest ⟨_, _, h⟩ => ?_
    cases h
  | .stop _ => by
    refine Acc.intro _ fun rest ⟨_, _, h⟩ => ?_
    cases h
  | .hide next => by
    refine Acc.intro _ fun rest ⟨_, _, h⟩ => ?_
    simp only [answer] at h
    split at h <;> cases h
    · exact follows_acc (next _)
    · exact follows_acc (next _)
  | .clearHistory next => by
    refine Acc.intro _ fun rest ⟨_, _, h⟩ => ?_
    obtain ⟨_, hrest⟩ := resumeIfOk_goesOn h
    exact hrest ▸ follows_acc next
  | .submit _ next | .submitInput next => by
    refine Acc.intro _ fun rest ⟨_, _, h⟩ => ?_
    obtain ⟨a, rfl⟩ := resume_goesOn h
    exact follows_acc (next a)
  | .complete next | .record _ next => by
    refine Acc.intro _ fun rest ⟨_, _, h⟩ => ?_
    obtain ⟨a, rfl⟩ := resumeIfOk_goesOn h
    exact follows_acc (next a)
  | .write _ next | .clear next | .setPrompt _ next | .paint _ next | .inputChanged _ next => by
    refine Acc.intro _ fun rest ⟨_, _, h⟩ => ?_
    cases h
    exact follows_acc next
  | .look next | .setInput _ next | .navigate _ next | .register _ next | .unregister _ next => by
    refine Acc.intro _ fun rest ⟨_, _, h⟩ => ?_
    cases h
    exact follows_acc (next _)

/-- Going on is well-founded, so that what holds of a run can be shown by induction on the scripts that are left. -/
theorem follows_wf : WellFounded Script.Follows := ⟨follows_acc⟩

/-! ## Submissions -/

/-- The submission that a script begins with: the line, and the session that it is submitted to, which has been cleared
of its input line if it is that one. -/
def submission? (s : Session) : Script → Option (Session × String)
  | .submit line _ => some (s, line)
  | .submitInput _ =>
    match s.writeInput "" with
    | (cleared, .ok ()) => some (cleared, s.surface.input)
    | (_, .error _) => none
  | _ => none

/-- The input line is submitted where it can be cleared. -/
theorem submission?_submitInput_eq_some {s s' : Session} {next : Except Fault Bool → Script} {line : String} :
    s.submission? (.submitInput next) = some (s', line) ↔
      s.surface.faultOfInput "" = .ok () ∧ (s.writeInput "").1 = s' ∧ s.surface.input = line := by
  cases hclear : s.surface.faultOfInput "" <;> simp [submission?, writeInput, hclear]

theorem submission?_submitInput_eq_none {s : Session} {next : Except Fault Bool → Script} :
    s.submission? (.submitInput next) = none ↔ ∃ f, s.surface.faultOfInput "" = .error f := by
  cases hclear : s.surface.faultOfInput "" <;> simp [submission?, writeInput, hclear]

/-- What a line that is submitted runs: the program of its command, on the session that has begun the line. -/
def call? (s : Session) (line : String) : Option (Script × Session) :=
  if (strip line).isEmpty then none
  else
    let begun := s.beginLine (strip line)
    let (name, args) := Line.splitCommand (strip line)
    (begun.registry.lookup name).map fun command => (command.program args, begun)

/-- A line that runs something is not blank, and what it runs starts on the session that has begun the line. -/
theorem call?_some {s begun : Session} {line : String} {program : Script}
    (h : s.call? line = some (program, begun)) :
    (strip line).isEmpty = false ∧ begun = s.beginLine (strip line) := by
  unfold call? at h
  split at h
  · cases h
  · rename_i hline
    obtain ⟨_, -, hcall⟩ := Option.map_eq_some_iff.mp h
    cases hcall
    exact ⟨by simpa using hline, rfl⟩

/-- What a line runs decides what its execution comes to, up to what is told of it. -/
theorem execute_told (submit : Submit) (s : Session) {line : String} (hline : (strip line).isEmpty = false) :
    (s.call? line = none ∧
        Told (s.beginLine (strip line)) (execute submit (s.beginLine (strip line)) (strip line)).1) ∨
      ∃ program, s.call? line = some (program, s.beginLine (strip line)) ∧
        Told (run submit program (s.beginLine (strip line))).1
          (execute submit (s.beginLine (strip line)) (strip line)).1 := by
  simp only [call?, hline, execute, Bool.false_eq_true, if_false]
  cases (s.beginLine (strip line)).registry.lookup (Line.splitCommand (strip line)).1 with
  | none => exact Or.inl ⟨rfl, writeLine_told _ _⟩
  | some command => exact Or.inr ⟨_, rfl, obey_told _ _ _ _ _⟩

end Session

/-! ## Moments -/

/-- A session, what is left of the script that it is running, and how many levels of submissions it may still go down.
-/
structure Moment where
  depth : Nat
  script : Script
  session : Session

namespace Moment

/-- The script is about to put another text into the input line, and the surface will not report it. -/
def Silent (m : Moment) : Prop :=
  ∃ text next, m.script = .setInput text next ∧ m.session.surface.reports = false ∧ text ≠ m.session.surface.input

/-- One moment leads to the next: the first request is answered; or the input line is changed and that is reported,
which is one step; or the program of a submitted command is entered. -/
inductive Next : Moment → Moment → Prop where
  | answered {m : Moment} {s : Session} {rest : Script} (hloud : ¬ m.Silent)
      (hanswer : m.session.answer (Session.submitWithin m.depth) m.script = (s, .goesOn rest)) :
      Next m ⟨m.depth, rest, s⟩
  | reported {m : Moment} {text : String} {next : Option Fault → Script} {rest : Script} (hsilent : m.Silent)
      (hscript : m.script = .setInput text next)
      (hreport : next (Session.problem? (m.session.setInput text).2) = .inputChanged text rest) :
      Next m ⟨m.depth, rest, (m.session.setInput text).1.inputChanged text⟩
  | entered {m : Moment} {depth : Nat} {s begun : Session} {line : String} {program : Script}
      (hdepth : m.depth = depth + 1) (hsubmission : m.session.submission? m.script = some (s, line))
      (hcall : s.call? line = some (program, begun)) :
      Next m ⟨depth, program, begun⟩

/-- A moment lies inside another one: the run that the other one begins passes through it. -/
def Inside : Moment → Moment → Prop := Relation.ReflTransGen Next

/-- What the run that a moment begins comes to. -/
def run (m : Moment) : Session × Except Stop (Option Verdict) := Session.run (Session.submitWithin m.depth) m.script m.session

/-- A change of the input line that the surface does not report is reported by the script with its next request. -/
def Reported (m : Moment) : Prop :=
  m.Silent → ∀ text next, m.script = .setInput text next →
    ∃ rest, next (Session.problem? (m.session.setInput text).2) = .inputChanged text rest

/-- A run is over with the answer to its first request, or it is the run of a next moment, whose script is what is left.
-/
theorem run_cases {m : Moment} (hreported : m.Reported) :
    (¬ m.Silent ∧ m.run.1 = (m.session.answer (Session.submitWithin m.depth) m.script).1) ∨
      ∃ m', m.Next m' ∧ m'.depth = m.depth ∧ Relation.TransGen Script.Follows m'.script m.script ∧ m.run = m'.run := by
  by_cases hsilent : m.Silent
  · right
    obtain ⟨text, next, hscript, _⟩ := id hsilent
    obtain ⟨rest, hrest⟩ := hreported hsilent text next hscript
    refine ⟨_, .reported hsilent hscript hrest, rfl, ?_, ?_⟩
    · refine .tail (.single (b := .inputChanged text rest) ⟨Session.submitWithin m.depth, m.session, rfl⟩) ?_
      exact ⟨Session.submitWithin m.depth, m.session, by rw [hscript, ← hrest]; rfl⟩
    · rw [run, hscript, Session.run_eq]
      simp only [Session.answer, hrest]
      rw [Session.run_eq]
      rfl
  · cases hanswer : m.session.answer (Session.submitWithin m.depth) m.script with
    | mk after then_ =>
      cases then_ with
      | ended outcome =>
        left
        refine ⟨hsilent, ?_⟩
        rw [run, Session.run_eq, hanswer]
      | goesOn rest =>
        right
        refine ⟨_, .answered hsilent hanswer, rfl, .single ⟨_, _, congrArg Prod.snd hanswer⟩, ?_⟩
        rw [run, Session.run_eq, hanswer]
        rfl

end Moment

end CommandConsole
