import CommandConsole.Proofs.Session.Shown
import CommandConsole.Proofs.Session.Unrecorded
import CommandConsole.Proofs.Value

/-!
# Failures that stay in the console

A line that is submitted comes to an `Ending`, whatever its command does: there is no such command, the validator rejects
the arguments, the validator or the action stops, or the action is completed. `Ends` says which ending it is, what was run
for it, and what session is left to it. The ending decides what is reported and what the submission gives back, and then
the line is recorded, in each case alike (`submission_contained`). What gets past a submission is an interrupt, be it in the
record only (`interrupts_get_past`).
-/

namespace CommandConsole

/-- Recording a line meets no fault: a store that fails is told of only. -/
theorem History.record_result (h : History) (line : String) :
    (∃ recorded, (h.record line).result = .ok recorded) ∨ ∃ m, (h.record line).result = .error (.interrupt m) := by
  unfold record
  split
  · dsimp only
    unfold persist
    split
    · exact Or.inl ⟨true, rfl⟩
    · exact Or.inl ⟨true, rfl⟩
    · rename_i why hnot _
      cases why with
      | fault f => exact absurd rfl (hnot f)
      | interrupt m => exact Or.inr ⟨m, rfl⟩
  · exact Or.inl ⟨false, rfl⟩

namespace Session

/-! ## Endings -/

/-- How the execution of a line comes to its end. -/
inductive Ending where
  | unknown
  | rejected (usage : Value)
  | stopped (why : Stop)
  | completed

namespace Ending

/-- The line that reports a fault of a command, if its message can be formed. -/
def reportOf (name : String) (f : Fault) : List String :=
  match f.message with
  | .ok message => [s!"Error executing command '{name}': {message}"]
  | .error _ => []

/-- The lines that report the ending of a command. -/
def report (name : String) : Ending → List String
  | unknown => [s!"Command not found: {name}"]
  | rejected usage =>
    s!"Error: Invalid arguments for command '{name}'" ::
      match usage.written with
      | .ok usage => [s!"Usage: {usage}"]
      | .error f => reportOf name f
  | stopped (.fault f) => reportOf name f
  | stopped (.interrupt _) => []
  | completed => []

/-- What a submission gives back: whether the command was completed; an interrupt goes on, and so does the failure to form
the message of a fault. -/
def result : Ending → Except Stop Bool
  | unknown => .ok false
  | rejected _ => .ok false
  | stopped (.fault f) => (f.message.mapError .fault).map fun _ => false
  | stopped (.interrupt m) => .error (.interrupt m)
  | completed => .ok true

/-- If the ending is a fault, its message can be formed. -/
def IsTellable : Ending → Prop
  | stopped (.fault f) => ∃ message, f.message = .ok message
  | _ => True

/-- A fault goes on only where the message of another one cannot be formed. -/
theorem of_fault {ending : Ending} {f' : Fault} (h : ending.result = .error (.fault f')) :
    ∃ f, ending = .stopped (.fault f) ∧ f.message = .error f' := by
  match ending with
  | stopped (.fault f) =>
    refine ⟨f, rfl, ?_⟩
    rw [result] at h
    cases hmessage : f.message <;> rw [hmessage] at h <;> cases h
    rfl
  | stopped (.interrupt _) | unknown | rejected _ | completed => cases h

/-- So an ending that can be told gives back no fault. -/
theorem result_ne_fault {ending : Ending} (h : ending.IsTellable) (f' : Fault) : ending.result ≠ .error (.fault f') := by
  intro hfault
  obtain ⟨f, rfl, hmessage⟩ := of_fault hfault
  obtain ⟨message, htold⟩ := h
  rw [hmessage] at htold
  cases htold

/-- Only an interrupt goes on as one. -/
theorem of_interrupted {ending : Ending} {m : String} (h : ending.result = .error (.interrupt m)) :
    ending = .stopped (.interrupt m) := by
  match ending with
  | stopped (.fault f) =>
    rw [result] at h
    cases hmessage : f.message <;> rw [hmessage] at h <;> cases h
  | stopped (.interrupt _) =>
    cases h
    rfl
  | unknown | rejected _ | completed => cases h

end Ending

/-- A line has been begun in a session; it comes to an ending and leaves a session to it. The command that its first word
names judges the other words; if it accepts them, its action is run once, with what is kept of them, and otherwise not at
all. -/
inductive Ends (submit : Submit) (begun : Session) (name : String) (args : List String) : Session → Ending → Prop where
  | unknown (hnone : begun.registry.lookup name = none) : Ends submit begun name args begun .unknown
  | rejected {c : Command} {judged : Session} (hc : begun.registry.lookup name = some c)
      (hjudges : Judges submit begun c args judged (.ok none)) : Ends submit begun name args judged (.rejected c.usage)
  | refused {c : Command} {judged : Session} {why : Stop} (hc : begun.registry.lookup name = some c)
      (hjudges : Judges submit begun c args judged (.error why)) : Ends submit begun name args judged (.stopped why)
  | stopped {c : Command} {judged left : Session} {kept : List String} {why : Stop}
      (hc : begun.registry.lookup name = some c) (hjudges : Judges submit begun c args judged (.ok (some kept)))
      (hrun : run submit (c.action kept) judged = (left, .error why)) : Ends submit begun name args left (.stopped why)
  | completed {c : Command} {judged left : Session} {kept : List String} {verdict : Option Verdict}
      (hc : begun.registry.lookup name = some c) (hjudges : Judges submit begun c args judged (.ok (some kept)))
      (hrun : run submit (c.action kept) judged = (left, .ok verdict)) : Ends submit begun name args left .completed

/-- The output of a session with further lines. -/
def outputWith (s : Session) (lines : List String) : List Output :=
  s.surface.output ++ lines.map fun line => .write (line ++ "\n")

/-- A report of a fault is a line, if the message can be formed; otherwise the failure to form it goes on. -/
theorem reportFault_eq (s : Session) (name : String) (f : Fault) :
    (s.reportFault name f).1.surface.output = s.outputWith (Ending.reportOf name f) ∧
      (s.reportFault name f).2 = (f.message.mapError .fault).map fun _ => false := by
  unfold reportFault Ending.reportOf
  cases f.message with
  | ok message => exact ⟨rfl, rfl⟩
  | error why => exact ⟨(List.append_nil _).symm, rfl⟩

/-- A report of a rejection is two lines, the second one of which shows the usage or says why it cannot be shown. -/
theorem reportRejection_eq (s : Session) (name : String) (usage : Value) :
    (s.reportRejection name usage).1.surface.output = s.outputWith ((Ending.rejected usage).report name) ∧
      (s.reportRejection name usage).2 = .ok false := by
  unfold reportRejection
  cases hwritten : usage.written with
  | ok text => exact ⟨by simp [Ending.report, hwritten, outputWith, writeLine, write, send, Surface.send], rfl⟩
  | error f =>
    obtain ⟨houtput, hresult⟩ := reportFault_eq (s.writeLine s!"Error: Invalid arguments for command '{name}'") name f
    refine ⟨?_, hresult.trans ?_⟩
    · rw [houtput]
      simp [Ending.report, hwritten, outputWith, writeLine, write, send, Surface.send]
    · rw [(Value.written_eq_error.mp hwritten).2]
      rfl

/-- Carrying out a command reports an ending and gives back its result. -/
theorem obey_ends (submit : Submit) {s : Session} {name : String} {c : Command} (hc : s.registry.lookup name = some c)
    (args : List String) :
    ∃ left ending, Ends submit s name args left ending ∧ Told left (s.obey submit name c args).1 ∧
      (s.obey submit name c args).1.surface.output = left.outputWith (ending.report name) ∧
      (s.obey submit name c args).2 = ending.result := by
  unfold obey
  rcases hjudged : s.judge submit c args with ⟨judged, (f | m) | ⟨kept, (_ | _)⟩⟩ <;>
    have hjudges := judges_of_judge hjudged
  · exact ⟨judged, .stopped (.fault f), .refused hc hjudges, reportFault_told judged name f, reportFault_eq judged name f⟩
  · exact ⟨judged, .stopped (.interrupt m), .refused hc hjudges, .refl judged, (List.append_nil _).symm, rfl⟩
  · exact ⟨judged, .rejected c.usage, .rejected hc hjudges, reportRejection_told judged name c.usage,
      reportRejection_eq judged name c.usage⟩
  · dsimp only
    rcases hrun : run submit (c.action kept) judged with ⟨left, (f | m) | verdict⟩
    · exact ⟨left, .stopped (.fault f), .stopped hc hjudges hrun, reportFault_told left name f, reportFault_eq left name f⟩
    · exact ⟨left, .stopped (.interrupt m), .stopped hc hjudges hrun, .refl left, (List.append_nil _).symm, rfl⟩
    · exact ⟨left, .completed, .completed hc hjudges hrun, .refl left, (List.append_nil _).symm, rfl⟩

/-- The execution of a line reports its ending and gives back its result. -/
theorem execute_ends (submit : Submit) (s : Session) (text : String) :
    ∃ left ending, Ends submit s (Line.splitCommand text).1 (Line.splitCommand text).2 left ending ∧
      Told left (execute submit s text).1 ∧
      (execute submit s text).1.surface.output = left.outputWith (ending.report (Line.splitCommand text).1) ∧
      (execute submit s text).2 = ending.result := by
  simp only [execute]
  cases hc : s.registry.lookup (Line.splitCommand text).1 with
  | none => exact ⟨s, .unknown, .unknown hc, writeLine_told s _, rfl, rfl⟩
  | some command => exact obey_ends submit hc _

/-- What is left to an ending is what the program of the command leaves, and it stops exactly if the program does, for the
same reason. -/
theorem Ends.run_program {submit : Submit} {begun left : Session} {name : String} {args : List String} {ending : Ending}
    (h : Ends submit begun name args left ending) {c : Command} (hc : begun.registry.lookup name = some c) :
    (run submit (c.program args) begun).1 = left ∧
      ∀ why, ending = .stopped why ↔ (run submit (c.program args) begun).2 = .error why := by
  have hsame : ∀ {c' : Command}, begun.registry.lookup name = some c' → c' = c := by
    intro c' hc'
    rw [hc] at hc'
    exact (Option.some.inj hc').symm
  cases h with
  | unknown hnone =>
    rw [hc] at hnone
    cases hnone
  | rejected hc' hjudges =>
    obtain rfl := hsame hc'
    rw [hjudges.run_program]
    exact ⟨rfl, fun _ => iff_of_false nofun nofun⟩
  | refused hc' hjudges =>
    obtain rfl := hsame hc'
    rw [hjudges.run_program]
    exact ⟨rfl, fun _ => by simp⟩
  | stopped hc' hjudges hrun =>
    obtain rfl := hsame hc'
    rw [hjudges.run_program]
    dsimp only
    rw [hrun]
    exact ⟨rfl, fun _ => by simp⟩
  | completed hc' hjudges hrun =>
    obtain rfl := hsame hc'
    rw [hjudges.run_program]
    dsimp only
    rw [hrun]
    exact ⟨rfl, fun _ => iff_of_false nofun nofun⟩

/-- A line whose first word names no command leaves the session in which it was begun. -/
theorem Ends.left_of_unknown {submit : Submit} {begun left : Session} {name : String} {args : List String}
    {ending : Ending} (h : Ends submit begun name args left ending) (hnone : begun.registry.lookup name = none) :
    left = begun ∧ ending = .unknown := by
  cases h with
  | unknown _ => exact ⟨rfl, rfl⟩
  | rejected hc _ | refused hc _ | stopped hc _ _ | completed hc _ _ =>
    rw [hnone] at hc
    cases hc

/-- What is left to an ending adds to the output. -/
theorem Ends.shows {depth : Nat} (hsubmit : ∀ s line, Shows s (submitWithin depth s line).1) {begun left : Session}
    {name : String} {args : List String} {ending : Ending}
    (h : Ends (submitWithin depth) begun name args left ending) : Shows begun left := by
  cases hc : begun.registry.lookup name with
  | none => exact (h.left_of_unknown hc).1 ▸ .refl begun
  | some c => exact (h.run_program hc).1 ▸ run_shows hsubmit (c.program args) begun

/-- A submission adds to the output, whatever its command submits itself. -/
theorem submitWithin_shows (depth : Nat) (s : Session) (line : String) : Shows s (submitWithin depth s line).1 := by
  -- the lines that an action submits are one level further down
  induction depth generalizing s line with
  | zero => exact .refl s
  | succ depth ih =>
    cases hline : (strip line).isEmpty with
    | true =>
      rw [submitWithin_idle (Or.inr hline)]
      exact .refl s
    | false =>
      obtain ⟨left, ending, hends, -, houtput, -⟩ :=
        execute_ends (submitWithin depth) (s.beginLine (strip line)) (strip line)
      have hbegun : Shows s (s.beginLine (strip line)) := List.prefix_append _ _
      have htold : Shows left (execute (submitWithin depth) (s.beginLine (strip line)) (strip line)).1 := by
        rw [Shows, houtput]
        exact List.prefix_append _ _
      rw [submitWithin_executed depth s hline]
      exact ((hbegun.trans (hends.shows ih)).trans htold).trans (.of_eq (endLine_output _ _ _))

/-! ## Closing a line -/

/-- Closing a line changes the history, the mark and the records only, and gives back the result of its execution unless
recording it is interrupted. -/
theorem endLine_cases (s : Session) (text : String) (result : Except Stop Bool) :
    (∃ notes, (s.endLine text result).1 =
        { s with history := if s.skipRecord then s.history else (s.history.record text).state
                 notes
                 skipRecord := false }) ∧
      ((s.endLine text result).2 = result ∨
        ∃ m, s.skipRecord = false ∧ (s.history.record text).result = .error (.interrupt m) ∧
          (s.endLine text result).2 = .error (.interrupt m)) := by
  cases hmark : s.skipRecord with
  | true =>
    have hend : s.endLine text result = ({ s with skipRecord := false }, result) := by rw [endLine, if_pos hmark]
    rw [hend]
    exact ⟨⟨_, rfl⟩, Or.inl rfl⟩
  | false =>
    have hrecord : s.record text =
        ({ s with history := (s.history.record text).state, notes := s.notes ++ (s.history.record text).notes },
          (s.history.record text).result) := rfl
    rw [endLine, hmark, if_neg Bool.false_ne_true, hrecord]
    rcases s.history.record_result text with ⟨recorded, hok⟩ | ⟨m, hinterrupted⟩
    · rw [hok]
      refine ⟨⟨s.notes ++ (s.history.record text).notes, ?_⟩, Or.inl rfl⟩
      simp [hmark]
    · rw [hinterrupted]
      refine ⟨⟨s.notes ++ (s.history.record text).notes, ?_⟩, Or.inr ⟨m, rfl, rfl, rfl⟩⟩
      simp [hmark]

/-- What is left to an ending is not marked, unless the program of the command empties the history. -/
theorem Ends.unmarked {depth : Nat} {s left : Session} {line : String} (hline : (strip line).isEmpty = false)
    {ending : Ending}
    (h : Ends (submitWithin depth) (s.beginLine (strip line)) (Line.splitCommand (strip line)).1
      (Line.splitCommand (strip line)).2 left ending)
    (hkept : ∀ program begun, s.call? line = some (program, begun) →
      ∀ m ∈ Moment.passes ⟨depth, program, begun⟩, ¬ m.Clears) : left.skipRecord = false := by
  cases hc : (s.beginLine (strip line)).registry.lookup (Line.splitCommand (strip line)).1 with
  | none => exact (h.left_of_unknown hc).1 ▸ rfl
  | some c =>
    let m : Moment := ⟨depth, c.program (Line.splitCommand (strip line)).2, s.beginLine (strip line)⟩
    have hcall : s.call? line = some (m.script, m.session) := by
      simp only [call?, hline, hc, Bool.false_eq_true, if_false, Option.map_some, m]
    -- beginning the line has taken the mark away, so the run itself must have set it
    have hmark := run_skipRecord m
    have hbegun : m.session.skipRecord = false := rfl
    rw [hbegun, show m.run.1 = left from (h.run_program hc).1] at hmark
    by_contra hmarked
    rw [Bool.not_eq_false] at hmarked
    rcases hmark.mp hmarked with ⟨before, cleared, later, hpasses, hclears, -⟩ | ⟨-, hfalse⟩
    · exact hkept _ _ hcall cleared (hpasses ▸ List.mem_append_right _ List.mem_cons_self) hclears
    · cases hfalse

/-- **Failures stay in the console.** A line that is not blank comes to an ending, whatever its command does. The output
begins with the echo of the line. The line is recorded in what is left to the ending unless that is marked, which it is not
if the command has not emptied the history. If the ending can be told, the output ends with the lines that report it, and
nothing else changes; the submission gives back the result of the ending, unless the store interrupts the record, and never
a fault. -/
theorem submission_contained (depth : Nat) (s : Session) (line : String) (hline : allBlank line = false) :
    let text := strip line
    let name := (Line.splitCommand text).1
    let args := (Line.splitCommand text).2
    let final := submitWithin (depth + 1) s line
    ∃ left ending shown, Ends (submitWithin depth) (s.beginLine text) name args left ending ∧
      left.surface.output = s.surface.output ++ .write (s!"{s.prompt} {text}" ++ "\n") :: shown ∧
      final.1.history = (if left.skipRecord then left.history else (left.history.record text).state) ∧
      ((∀ program begun, s.call? line = some (program, begun) →
          ∀ m ∈ Moment.passes ⟨depth, program, begun⟩, ¬ m.Clears) → left.skipRecord = false) ∧
      (ending.IsTellable →
        (∃ notes, final.1 =
          { left with
            surface := { left.surface with
              output := left.surface.output ++ (ending.report name).map fun message => .write (message ++ "\n") }
            history := final.1.history
            notes
            skipRecord := false }) ∧
        (final.2 = ending.result ∨
          ∃ m, left.skipRecord = false ∧ (left.history.record text).result = .error (.interrupt m) ∧
            final.2 = .error (.interrupt m)) ∧
        ∀ f, final.2 ≠ .error (.fault f)) := by
  rw [← strip_isEmpty] at hline
  obtain ⟨left, ending, hends, ⟨output, notes, htold⟩, houtput, hresult⟩ :=
    execute_ends (submitWithin depth) (s.beginLine (strip line)) (strip line)
  obtain ⟨shown, hshown⟩ := hends.shows (submitWithin_shows depth)
  have hclosed := endLine_cases (execute (submitWithin depth) (s.beginLine (strip line)) (strip line)).1 (strip line)
    (execute (submitWithin depth) (s.beginLine (strip line)) (strip line)).2
  rw [← submitWithin_executed depth s hline] at hclosed
  rw [htold] at houtput hclosed
  rw [hresult] at hclosed
  obtain ⟨⟨records, hfinal⟩, hgiven⟩ := hclosed
  dsimp only
  refine ⟨left, ending, shown, hends, ?_, ?_, hends.unmarked hline,
    fun htellable => ⟨⟨records, ?_⟩, hgiven, fun f hfault => ?_⟩⟩
  · rw [← hshown, beginLine_output, List.append_assoc]
    rfl
  · rw [hfinal]
  · rw [hfinal, show output = left.outputWith (ending.report (Line.splitCommand (strip line)).1) from houtput]
    rfl
  · rcases hgiven with hgiven | ⟨m, -, -, hgiven⟩
    · exact Ending.result_ne_fault htellable f (hgiven.symm.trans hfault)
    · rw [hfault] at hgiven
      cases hgiven

namespace FailingLate

/-- A command whose validator takes an argument away and writes the others; the action submits a line, and then it
fails. -/
def fail : Command where
  name := "Fail"
  action args := .writeLine (" ".intercalate args) (.submit "nobody" fun _ => .fail (.badState "too late"))
  usage := .string "fail"
  validator := some fun args => .writeLine s!"{args.length} words" (.judge args.dropLast (.ok true))

/-- A console with this command. -/
def console : Session where
  completion := { registry := ({} : Registry).insert fail }
  history := { storage := {}, key := "lines", capacity := 3 }
  prompt := ">"

end FailingLate

open FailingLate in
/-- The line of a command that fails late is recorded behind the one that it has submitted. -/
theorem submission_contained_late :
    let final := submit console " Fail a b\n"
    allBlank " Fail a b\n" = false ∧ final.2 = .ok false ∧
      ∃ left, Ends (submitWithin 246) (console.beginLine "Fail a b") "fail" ["a", "b"] left
          (.stopped (.fault (.badState "too late"))) ∧
        final.1.surface.output =
          left.surface.output ++ [.write "Error executing command 'fail': too late\n"] ∧
        left.surface.output =
          [.write "> Fail a b\n", .write "2 words\n", .write "a\n", .write "> nobody\n",
            .write "Command not found: nobody\n"] ∧
        final.1.history = (left.history.record "Fail a b").state ∧ left.history.entries = ["nobody"] := by
  have hline : allBlank " Fail a b\n" = false := by decide +kernel
  have hstripped : strip " Fail a b\n" = "Fail a b" := by decide +kernel
  have hsplit : Line.splitCommand "Fail a b" = ("fail", ["a", "b"]) := by decide +kernel
  have hlookup : (console.beginLine "Fail a b").registry.lookup "fail" = some fail := by rfl
  obtain ⟨left, ending, shown, hends, -, hhistory, -, htold⟩ := submission_contained 246 console " Fail a b\n" hline
  rw [hstripped, hsplit] at hends
  rw [hstripped] at hhistory
  have hleft := (hends.run_program hlookup).1
  have hstopped : (run (submitWithin 246) (fail.program ["a", "b"]) (console.beginLine "Fail a b")).2 =
      .error (.fault (.badState "too late")) := by rfl
  obtain rfl := ((hends.run_program hlookup).2 _).mpr hstopped
  obtain ⟨⟨notes, hfinal⟩, hresult, -⟩ := htold ⟨_, rfl⟩
  have hunmarked : left.skipRecord = false := by rw [← hleft]; rfl
  have hrecorded : (left.history.record "Fail a b").result = .ok true := by rw [← hleft]; rfl
  refine ⟨hline, ?_, left, hends, ?_, ?_, ?_, ?_⟩
  · refine hresult.resolve_right fun ⟨m, _, hinterrupted, _⟩ => ?_
    rw [hstripped, hrecorded] at hinterrupted
    cases hinterrupted
  · rw [submit, nestingLimit, hfinal, hstripped, hsplit]
    rfl
  · rw [← hleft]
    rfl
  · rw [submit, nestingLimit, hhistory, hunmarked]
    rfl
  · rw [← hleft]
    rfl

namespace InterruptedRecord

/-- A console with the default commands, whose store interrupts each write. -/
def console : Session where
  completion := { registry := Defaults.install {} }
  history := { storage := { writeFault := fun _ => some (.interrupt "stop") }, key := "lines", capacity := 3 }
  prompt := ">"

/-- A command that fails with a fault whose message cannot be formed. -/
def mumble : Command where
  name := "mumble"
  action _ := .fail ⟨.value, .failing Value.notWritable⟩
  usage := .string "mumble"

end InterruptedRecord

open InterruptedRecord in
/-- An interrupt of the record gets past a submission whose command has run to completion, and the failure to form the
message of a fault gets past one that no store interrupts. -/
theorem interrupts_get_past :
    (∃ left, Ends (submitWithin 246) (console.beginLine "about") "about" [] left .completed) ∧
      (submit console "about").2 = .error (.interrupt "stop") ∧
      (submit { FailingLate.console with completion := { registry := ({} : Registry).insert mumble } } "mumble").2 =
        .error (.fault Value.notWritable) := by
  have hlookup : (console.beginLine "about").registry.lookup "about" = Defaults.commands[2]? := by rfl
  refine ⟨⟨_, .completed hlookup (.unguarded rfl) (Prod.ext rfl ?_)⟩, by rfl, by rfl⟩
  rfl

end Session

end CommandConsole
