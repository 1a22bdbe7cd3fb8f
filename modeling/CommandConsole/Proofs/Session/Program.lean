import CommandConsole.Session.Basic

/-!
# Programs of commands

A command is carried out in two parts: its validator judges the arguments (`Session.Judges`), and its action runs on those
that it accepts. `Definition.program` is both in one script, where `Script.andThen` puts the action behind the validator.
The session that is left when a command is carried out is the one that its program leaves, but for what is told of the
outcome (`obey_told`).
-/

namespace CommandConsole

/-- A script that goes on as another one when it is finished. -/
def Script.andThen (next : Option Verdict → Script) : Script → Script
  | .done verdict => next verdict
  | .stop why => .stop why
  | .look rest => .look fun v => (rest v).andThen next
  | .write text rest => .write text (rest.andThen next)
  | .clear rest => .clear (rest.andThen next)
  | .hide rest => .hide fun f => (rest f).andThen next
  | .clearHistory rest => .clearHistory (rest.andThen next)
  | .setPrompt symbol rest => .setPrompt symbol (rest.andThen next)
  | .paint colors rest => .paint colors (rest.andThen next)
  | .setInput text rest => .setInput text fun f => (rest f).andThen next
  | .inputChanged text rest => .inputChanged text (rest.andThen next)
  | .submit line rest => .submit line fun a => (rest a).andThen next
  | .submitInput rest => .submitInput fun a => (rest a).andThen next
  | .navigate direction rest => .navigate direction fun a => (rest a).andThen next
  | .complete rest => .complete fun line => (rest line).andThen next
  | .record line rest => .record line fun recorded => (rest recorded).andThen next
  | .register candidate rest => .register candidate fun f => (rest f).andThen next
  | .unregister name rest => .unregister name fun removed => (rest removed).andThen next

/-- What a command does with arguments: the validator judges them, and the action runs on those that it accepts. -/
def Definition.program (c : Command) (args : List String) : Script :=
  match c.validator with
  | none => c.action args
  | some check => (check args).andThen fun
    | some ⟨args, true⟩ => c.action args
    | _ => .done

namespace Session

/-- A run of two scripts is a run of the first one, and of the second one if that has been finished. -/
theorem run_andThen (submit : Submit) (next : Option Verdict → Script) : ∀ (script : Script) (s : Session),
    run submit (script.andThen next) s =
      match run submit script s with
      | (after, .ok verdict) => run submit (next verdict) after
      | (after, .error why) => (after, .error why)
  | .done _, _ | .stop _, _ => rfl
  | .look rest, s => run_andThen submit next (rest _) s
  | .write _ rest, _ | .clear rest, _ | .setPrompt _ rest, _ | .paint _ rest, _ | .inputChanged _ rest, _ =>
    run_andThen submit next rest _
  | .setInput _ rest, _ | .navigate _ rest, _ | .register _ rest, _ | .unregister _ rest, _ =>
    run_andThen submit next (rest _) _
  | .hide rest, s => by
    simp only [Script.andThen, run]
    rcases s.hide with ⟨after, (f | m) | _⟩
    · exact run_andThen submit next (rest (some f)) after
    · rfl
    · exact run_andThen submit next (rest none) after
  | .clearHistory rest, s => by
    simp only [Script.andThen, run]
    rcases s.clearHistory with ⟨after, _ | _⟩
    · rfl
    · exact run_andThen submit next rest after
  | .submit line rest, s => by
    simp only [Script.andThen, run]
    rcases submit s line with ⟨after, (f | m) | a⟩
    · exact run_andThen submit next (rest (.error f)) after
    · rfl
    · exact run_andThen submit next (rest (.ok a)) after
  | .submitInput rest, s => by
    simp only [Script.andThen, run]
    rcases submitInputBy submit s with ⟨after, (f | m) | a⟩
    · exact run_andThen submit next (rest (.error f)) after
    · rfl
    · exact run_andThen submit next (rest (.ok a)) after
  | .complete rest, s => by
    simp only [Script.andThen, run]
    rcases s.complete with ⟨after, _ | line⟩
    · rfl
    · exact run_andThen submit next (rest line) after
  | .record line rest, s => by
    simp only [Script.andThen, run]
    rcases s.record line with ⟨after, _ | recorded⟩
    · rfl
    · exact run_andThen submit next (rest recorded) after

/-! ## Judgements -/

/-- What a command makes of arguments: without a validator they are accepted; otherwise that is run with them, and accepts
them, perhaps changed, or rejects them, or stops. -/
inductive Judges (submit : Submit) (s : Session) (c : Command) (args : List String) :
    Session → Except Stop (Option (List String)) → Prop where
  | unguarded (hnone : c.validator = none) : Judges submit s c args s (.ok (some args))
  | accepted {check : Validator} {judged : Session} {kept : List String} (hcheck : c.validator = some check)
      (hrun : run submit (check args) s = (judged, .ok (some ⟨kept, true⟩))) :
      Judges submit s c args judged (.ok (some kept))
  | rejected {check : Validator} {judged : Session} {verdict : Option Verdict} (hcheck : c.validator = some check)
      (hrun : run submit (check args) s = (judged, .ok verdict)) (hrejected : ∀ kept, verdict ≠ some ⟨kept, true⟩) :
      Judges submit s c args judged (.ok none)
  | stopped {check : Validator} {judged : Session} {why : Stop} (hcheck : c.validator = some check)
      (hrun : run submit (check args) s = (judged, .error why)) : Judges submit s c args judged (.error why)

/-- The arguments that a verdict accepts. -/
def accepted? (verdict : Verdict) : Option (List String) := if verdict.accepted then some verdict.args else none

/-- What a command makes of arguments is what it is taken to make of them. -/
theorem judges_iff {submit : Submit} {s judged : Session} {c : Command} {args : List String}
    {outcome : Except Stop (Option (List String))} :
    Judges submit s c args judged outcome ↔
      (s.judge submit c args).1 = judged ∧ (s.judge submit c args).2.map accepted? = outcome := by
  constructor
  · rintro (hnone | ⟨hcheck, hrun⟩ | ⟨hcheck, hrun, hrejected⟩ | ⟨hcheck, hrun⟩)
    · simp only [judge, hnone]
      exact ⟨trivial, rfl⟩
    · simp only [judge, hcheck, hrun]
      exact ⟨trivial, rfl⟩
    · simp only [judge, hcheck, hrun]
      rename_i verdict
      match verdict, hrejected with
      | none, _ | some ⟨_, false⟩, _ => exact ⟨trivial, rfl⟩
      | some ⟨kept, true⟩, hrejected => exact absurd rfl (hrejected kept)
    · simp only [judge, hcheck, hrun]
      exact ⟨trivial, rfl⟩
  · rintro ⟨rfl, rfl⟩
    cases hvalidator : c.validator with
    | none =>
      simp only [judge, hvalidator]
      exact .unguarded hvalidator
    | some check =>
      simp only [judge, hvalidator]
      rcases hrun : run submit (check args) s with ⟨judged, why | (_ | ⟨kept, (_ | _)⟩)⟩
      · exact .stopped hvalidator hrun
      · exact .rejected hvalidator hrun fun _ h => nomatch h
      · exact .rejected hvalidator hrun fun _ h => nomatch h
      · exact .accepted hvalidator hrun

theorem judges_of_judge {submit : Submit} {s judged : Session} {c : Command} {args : List String}
    {verdict : Except Stop Verdict} (h : s.judge submit c args = (judged, verdict)) :
    Judges submit s c args judged (verdict.map accepted?) := by
  rw [judges_iff, h]
  exact ⟨rfl, rfl⟩

/-- A run of a program runs the action on the arguments that are accepted, in the session that the validator leaves. -/
theorem Judges.run_program {submit : Submit} {s judged : Session} {c : Command} {args : List String}
    {outcome : Except Stop (Option (List String))} :
    Judges submit s c args judged outcome →
      run submit (c.program args) s =
        match outcome with
        | .ok (some kept) => run submit (c.action kept) judged
        | .ok none => (judged, .ok none)
        | .error why => (judged, .error why) := by
  intro h
  cases h with
  | unguarded hnone => rw [Definition.program, hnone]
  | accepted hcheck hrun => simp only [Definition.program, hcheck, run_andThen, hrun]
  | @rejected check judged verdict hcheck hrun hrejected =>
    simp only [Definition.program, hcheck, run_andThen, hrun]
    match verdict, hrejected with
    | none, _ | some ⟨_, false⟩, _ => rfl
    | some ⟨kept, true⟩, hrejected => exact absurd rfl (hrejected kept)
  | stopped hcheck hrun => simp only [Definition.program, hcheck, run_andThen, hrun]

/-! ## What is told -/

/-- A session that differs from another one in its output and its records only. -/
def Told (s s' : Session) : Prop := ∃ output notes, s' = { s with surface := { s.surface with output }, notes }

theorem Told.refl (s : Session) : Told s s := ⟨s.surface.output, s.notes, rfl⟩

theorem Told.trans {s s' s'' : Session} (h : Told s s') (h' : Told s' s'') : Told s s'' := by
  obtain ⟨_, _, rfl⟩ := h
  obtain ⟨output, notes, rfl⟩ := h'
  exact ⟨output, notes, rfl⟩

/-- Writing a line changes the output only. -/
theorem writeLine_told (s : Session) (text : String) : Told s (s.writeLine text) := ⟨_, s.notes, rfl⟩

/-- A report of a fault is told, whether it can be formed or not. -/
theorem reportFault_told (s : Session) (name : String) (f : Fault) : Told s (s.reportFault name f).1 := by
  unfold reportFault
  split <;> exact ⟨_, _, rfl⟩

/-- So is a report of a rejection. -/
theorem reportRejection_told (s : Session) (name : String) (usage : Value) :
    Told s (s.reportRejection name usage).1 := by
  have htold := writeLine_told s s!"Error: Invalid arguments for command '{name}'"
  unfold reportRejection
  split
  · exact htold.trans (writeLine_told _ _)
  · exact htold.trans (reportFault_told _ name _)

/-- Carrying out a command leaves what its program leaves, up to what is told of the outcome. -/
theorem obey_told (submit : Submit) (s : Session) (name : String) (c : Command) (args : List String) :
    Told (run submit (c.program args) s).1 (s.obey submit name c args).1 := by
  unfold obey
  rcases hjudged : s.judge submit c args with ⟨judged, (f | m) | ⟨kept, (_ | _)⟩⟩ <;>
    rw [(judges_of_judge hjudged).run_program]
  · exact reportFault_told judged name f
  · exact .refl judged
  · exact reportRejection_told judged name c.usage
  · show Told (run submit (c.action kept) judged).1 _
    dsimp only
    rcases run submit (c.action kept) judged with ⟨left, (f | m) | _⟩
    · exact reportFault_told left name f
    · exact .refl left
    · exact .refl left

end Session

end CommandConsole
