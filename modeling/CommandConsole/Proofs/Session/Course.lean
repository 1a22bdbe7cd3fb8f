import CommandConsole.Proofs.Session.InStep

/-!
# Courses of a session

A `Course` is whatever happens to a session from its start on, and `Session.Reaches` says what it passes through, inside
of the runs too. The cycle is in step with the input line all the way, so that no completion request writes over a text
that the session has not written (`cycle_in_step`).
-/

namespace CommandConsole

namespace Session

open Moment

/-- What happens to a session from its start on: it starts; its user edits the input line, which is reported; anything
else changes that has nothing to do with the line; or scripts are run, be it for single events or for many. -/
inductive Course (setup : Setup) : Session → Prop where
  | started {s : Session} (hstart : start setup = .ok s) : Course setup s
  | edited {s : Session} (text : String) (h : Course setup s) :
      Course setup ({ s with surface := { s.surface with input := text } }.inputChanged text)
  | elsewhere {s s' : Session} (h : Course setup s) (hsame : SameLine s s') : Course setup s'
  | ran {s : Session} (script : Script) (h : Course setup s)
      (hregular : RegularThroughout ⟨nestingLimit, script, s⟩) : Course setup (run submit script s).1

/-- The sessions that a course passes through, those inside of runs included. -/
def Reaches (setup : Setup) (s : Session) : Prop :=
  ∃ before script m, Course setup before ∧ RegularThroughout ⟨nestingLimit, script, before⟩ ∧
    Inside ⟨nestingLimit, script, before⟩ m ∧ m.session = s

/-- A session starts without a cycle, and with the default commands in its registry if they are wanted. -/
theorem completion_of_start {setup : Setup} {s : Session} (h : start setup = .ok s) :
    s.completion =
      { registry := if setup.installsDefaults then Defaults.install setup.registry else setup.registry } := by
  unfold start at h
  simp only [bind, Except.bind, pure, Except.pure] at h
  split at h
  · cases h
  · split at h
    · cases h
    · cases h
      unfold greet
      split
      · rfl
      · split <;> rfl

/-- The cycle is in step between the runs of a course. -/
theorem course_inStep {setup : Setup} {s : Session} (h : Course setup s) : s.InStep := by
  induction h with
  | started hstart => exact inStep_of_idle (by rw [completion_of_start hstart])
  | @edited before text _ ih =>
    exact @InStep.edited before { before with surface := { before.surface with input := text } } ih rfl rfl
  | elsewhere _ hsame ih => exact ih.of_sameLine hsame
  | @ran before script _ hregular ih =>
    have h := run_inStep nestingLimit ⟨nestingLimit, script, before⟩ rfl hregular ih
    rwa [Moment.run, ← submit] at h

/-- The cycle is in step wherever a course passes. -/
theorem Reaches.inStep {setup : Setup} {s : Session} (h : Reaches setup s) : s.InStep := by
  obtain ⟨before, script, m, hcourse, hregular, hinside, rfl⟩ := h
  exact inside_inStep hinside hregular (course_inStep hcourse)

/-- Without a cycle, a request leaves the input line as it is or puts a candidate for it in. -/
theorem complete_input {s : Session} (hidle : s.completion.cycle = none) :
    s.complete.1.surface.input = s.surface.input ∨
      ∃ cs, s.completion.offers s.surface.input = .ok cs ∧
        ∃ c ∈ cs, s.complete.1.surface.input = Line.replaceLast s.surface.input c := by
  unfold complete
  split
  · dsimp only
    split
    · rename_i line hline
      obtain ⟨cs, hcs, c, hc, rfl⟩ := Completion.complete_afresh hidle hline
      exact Or.inr ⟨cs, hcs, c, hc, rfl⟩
    · exact Or.inl rfl
  · exact Or.inl rfl

/-- **The input line and the cycle.** Wherever a course passes, as long as a cycle lasts, the input line is what the
session wrote last, and it is the line of the cycle with the candidate in the place of its last token. So when the input
line is another one than the session wrote last, there is no cycle, and a request leaves that line as it is or completes
that very line with a candidate that it finds for it. -/
theorem cycle_in_step {setup : Setup} {s : Session} (h : Reaches setup s) :
    (∀ c, s.completion.cycle = some c → c.current ∈ c.candidates ∧ s.lastWritten = some s.surface.input ∧
        s.surface.input = Line.replaceLast c.line c.current) ∧
      (s.lastWritten ≠ some s.surface.input → s.completion.cycle = none ∧
        (s.complete.1.surface.input = s.surface.input ∨
          ∃ cs, s.completion.offers s.surface.input = .ok cs ∧
            ∃ c ∈ cs, s.complete.1.surface.input = Line.replaceLast s.surface.input c)) := by
  have hin := h.inStep
  have hwritten : ∀ c, s.completion.cycle = some c → s.lastWritten = some s.surface.input := by
    intro c hc
    rw [hin.shown c hc]
    exact hin.written c hc
  refine ⟨fun c hc => ⟨(hin.sound c hc).current_mem, hwritten c hc, hin.shown c hc⟩, fun hunmatched => ?_⟩
  have hidle : s.completion.cycle = none := by
    cases hcycle : s.completion.cycle with
    | none => rfl
    | some c => exact absurd (hwritten c hcycle) hunmatched
  exact ⟨hidle, complete_input hidle⟩

namespace NestedCompletion

/-- A command with two candidates for its argument. -/
def pick : Command :=
  { name := "pick", action := fun _ => .done, usage := .string "pick <letter>",
    completer := some fun _ => .ok (.list [.string "a", .string "b"]) }

/-- A command that changes the input line, reports that and requests completions. -/
def tour : Command :=
  { name := "tour", usage := .string "tour",
    action := fun _ =>
      .setInput "pick x" fun _ => .inputChanged "pick x" (.complete fun _ => .complete fun _ => .done) }

/-- A console with these two commands. -/
def setup : Setup where
  registry := ⟨[⟨"pick", pick, 0⟩, ⟨"tour", tour, 0⟩]⟩
  installsDefaults := false

/-- The console submits a line for the second one. -/
def host : Script := .submit "tour" fun _ => .done

/-- Nothing goes wrong at the end of a script. -/
theorem done_regular (depth : Nat) (s : Session) : RegularThroughout ⟨depth, .done, s⟩ := by
  refine regularThroughout_of (regular_of_script (fun _ _ h => nomatch h) fun _ h => nomatch h) fun m' hnext => ?_
  cases hnext with
  | answered _ h => cases h
  | reported _ h _ => cases h
  | entered _ h _ => cases h

/-- Nothing goes wrong at a completion request if nothing does afterwards. -/
theorem complete_regular {depth : Nat} {next : Option String → Script}
    (h : ∀ line s, RegularThroughout ⟨depth, next line, s⟩) (s : Session) :
    RegularThroughout ⟨depth, .complete next, s⟩ := by
  refine regularThroughout_of (regular_of_script (fun _ _ h => nomatch h) fun _ h => nomatch h) fun m' hnext => ?_
  cases hnext with
  | answered _ hanswer =>
    obtain ⟨line, rfl⟩ := resumeIfOk_goesOn (congrArg Prod.snd hanswer)
    exact h line _
  | reported _ h _ => cases h
  | entered _ h _ => cases h

/-- Nothing goes wrong in the action of the second command: it reports what it changes. -/
theorem tour_regular (depth : Nat) (s : Session) : RegularThroughout ⟨depth, tour.action [], s⟩ := by
  have hlater : ∀ s, RegularThroughout ⟨depth, .complete fun _ => .complete fun _ => .done, s⟩ :=
    complete_regular fun _ => complete_regular fun _ => done_regular depth
  have hreport : ∀ s,
      RegularThroughout ⟨depth, .inputChanged "pick x" (.complete fun _ => .complete fun _ => .done), s⟩ := by
    intro s
    refine regularThroughout_of (regular_of_script (fun _ _ h => nomatch h) fun _ h => nomatch h) fun m' hnext => ?_
    cases hnext with
    | answered _ h =>
      cases h
      exact hlater _
    | reported _ h _ => cases h
    | entered _ h _ => cases h
  refine regularThroughout_of ⟨fun _ _ _ hscript => ?_, fun _ _ h => (nomatch h)⟩ fun m' hnext => ?_
  · cases hscript
    exact ⟨_, rfl⟩
  · cases hnext with
    | answered _ h =>
      cases h
      exact hreport _
    | reported _ hscript h =>
      cases hscript
      cases h
      exact hlater _
    | entered _ h _ => cases h

/-- The line runs the second command. -/
theorem call_tour {s : Session} (h : s.registry = setup.registry) :
    s.call? "tour" = some (tour.action [], s.beginLine "tour") := by
  have hline : strip "tour" = "tour" ∧ Line.splitCommand "tour" = ("tour", []) := ⟨rfl, rfl⟩
  have hregistry : (s.beginLine "tour").registry = setup.registry := h
  have hlookup : setup.registry.lookup "tour" = some tour := rfl
  simp only [call?, hline, hregistry, hlookup]
  rfl

/-- Nothing goes wrong in the run of the host. -/
theorem host_regular {s : Session} (h : s.registry = setup.registry) : RegularThroughout ⟨nestingLimit, host, s⟩ := by
  refine regularThroughout_of (regular_of_script (fun _ _ h => nomatch h) fun _ h => nomatch h) fun m' hnext => ?_
  cases hnext with
  | answered _ hanswer =>
    simp only [host, answer] at hanswer
    obtain ⟨_, hrest⟩ := resume_goesOn (Prod.mk.inj hanswer).2
    exact hrest ▸ done_regular _ _
  | reported _ h _ => cases h
  | entered hdepth hsubmission hcall =>
    cases hsubmission
    rw [call_tour h] at hcall
    cases hcall
    exact tour_regular _ _

/-- The console after its start. -/
def opened : Session := (start setup).toOption.get (by rfl)

/-- The console in the action of the second command, when the new text has been reported. -/
def reported : Session := ((opened.beginLine "tour").setInput "pick x").1.inputChanged "pick x"

/-- A completion request that succeeds leads to what comes after it. -/
theorem next_complete {depth : Nat} {s : Session} {next : Option String → Script} {line : Option String}
    (h : s.complete.2 = .ok line) : Moment.Next ⟨depth, .complete next, s⟩ ⟨depth, next line, s.complete.1⟩ :=
  .answered (fun ⟨_, _, h, _⟩ => (nomatch h)) (by simp only [answer, h, resumeIfOk])

/-- The course passes through the console that has been completed twice. -/
theorem reaches_completed : Reaches setup reported.complete.1.complete.1 := by
  have hregistry : opened.registry = setup.registry := by rfl
  have hentered : Moment.Next ⟨nestingLimit, host, opened⟩ ⟨246, tour.action [], opened.beginLine "tour"⟩ :=
    .entered rfl rfl (call_tour hregistry)
  have hreported : Moment.Next ⟨246, tour.action [], opened.beginLine "tour"⟩
      ⟨246, .complete fun _ => .complete fun _ => .done, reported⟩ :=
    .reported ⟨"pick x", _, rfl, by rfl, by decide +kernel⟩ rfl rfl
  have hfirst : reported.complete.2 = .ok (some "pick a") := by rfl
  have hsecond : reported.complete.1.complete.2 = .ok (some "pick b") := by rfl
  refine ⟨opened, host, ⟨246, .done, reported.complete.1.complete.1⟩, .started (by rfl), host_regular hregistry,
    ?_, rfl⟩
  exact .head hentered (.head hreported (.head (next_complete hfirst) (.single (next_complete hsecond))))

end NestedCompletion

open NestedCompletion in
/-- A command that is run by a line changes the input line, reports it and requests two completions. -/
theorem cycle_in_step_nested :
    ∃ s, Reaches setup s ∧ s.completion.cycle.isSome = true ∧ s.surface.input = "pick b" ∧
      (∀ c, s.completion.cycle = some c → c.current ∈ c.candidates ∧ s.lastWritten = some s.surface.input ∧
        s.surface.input = Line.replaceLast c.line c.current) ∧
      (s.lastWritten ≠ some s.surface.input → s.completion.cycle = none ∧
        (s.complete.1.surface.input = s.surface.input ∨
          ∃ cs, s.completion.offers s.surface.input = .ok cs ∧
            ∃ c ∈ cs, s.complete.1.surface.input = Line.replaceLast s.surface.input c)) :=
  ⟨_, reaches_completed, by rfl, by rfl, cycle_in_step reaches_completed⟩

end Session

end CommandConsole
