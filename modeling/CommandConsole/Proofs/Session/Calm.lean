import CommandConsole.Proofs.Session.Leaving

/-!
# Calm commands

A calm command may fail, but it never interrupts the console: its validator and its action do not stop with an interrupt,
whatever the console answers to their requests, its completer does not raise one, and what they register is calm again. A
session of calm commands stays calm (`submitWithin_calm`), and what it submits is not interrupted but by a write to its
store.
-/

namespace CommandConsole

/-- The completer of a command may fail, but it does not interrupt. -/
def Definition.Gentle (c : Command) : Prop :=
  ∀ ask, c.completer = some ask → ∀ request m, ask request ≠ .error (.interrupt m)

/-- A script that does not interrupt, whatever it is answered, and registers only commands that do not either. -/
inductive Script.Calm : Script → Prop where
  | done {verdict : Option Verdict} : Calm (.done verdict)
  | fail (f : Fault) : Calm (.stop (.fault f))
  | look {next : View → Script} (h : ∀ v, Calm (next v)) : Calm (.look next)
  | write {text : String} {next : Script} (h : Calm next) : Calm (.write text next)
  | clear {next : Script} (h : Calm next) : Calm (.clear next)
  | hide {next : Option Fault → Script} (h : ∀ f, Calm (next f)) : Calm (.hide next)
  | clearHistory {next : Script} (h : Calm next) : Calm (.clearHistory next)
  | setPrompt {symbol : String} {next : Script} (h : Calm next) : Calm (.setPrompt symbol next)
  | paint {colors : Colors} {next : Script} (h : Calm next) : Calm (.paint colors next)
  | setInput {text : String} {next : Option Fault → Script} (h : ∀ f, Calm (next f)) : Calm (.setInput text next)
  | inputChanged {text : String} {next : Script} (h : Calm next) : Calm (.inputChanged text next)
  | submit {line : String} {next : Except Fault Bool → Script} (h : ∀ a, Calm (next a)) : Calm (.submit line next)
  | submitInput {next : Except Fault Bool → Script} (h : ∀ a, Calm (next a)) : Calm (.submitInput next)
  | navigate {direction : Value} {next : Except Fault String → Script} (h : ∀ a, Calm (next a)) :
      Calm (.navigate direction next)
  | complete {next : Option String → Script} (h : ∀ a, Calm (next a)) : Calm (.complete next)
  | record {line : String} {next : Bool → Script} (h : ∀ a, Calm (next a)) : Calm (.record line next)
  | register {c : Command} {next : Option Fault → Script} (hgentle : c.Gentle)
      (hvalidator : ∀ check, c.validator = some check → ∀ args, Calm (check args))
      (haction : ∀ args, Calm (c.action args)) (h : ∀ f, Calm (next f)) : Calm (.register (.command c) next)
  | offer {v : Value} {next : Option Fault → Script} (h : ∀ f, Calm (next f)) : Calm (.register (.value v) next)
  | unregister {name : String} {next : Bool → Script} (h : ∀ b, Calm (next b)) : Calm (.unregister name next)

/-- A command that may fail but does not interrupt. -/
structure Definition.Calm (c : Command) : Prop where
  gentle : c.Gentle
  validator : ∀ check, c.validator = some check → ∀ args, (check args).Calm
  action : ∀ args, (c.action args).Calm

/-- What follows a calm script is calm. -/
theorem Script.Calm.rest {script rest : Script} (h : script.Calm) (hfollows : rest.Follows script) : rest.Calm := by
  obtain ⟨submit, s, hanswer⟩ := hfollows
  cases h with
  | done | fail _ => cases hanswer
  | hide h =>
    simp only [Session.answer] at hanswer
    split at hanswer <;> cases hanswer
    · exact h _
    · exact h _
  | clearHistory h =>
    obtain ⟨_, rfl⟩ := Session.resumeIfOk_goesOn hanswer
    exact h
  | submit h | submitInput h =>
    obtain ⟨a, rfl⟩ := Session.resume_goesOn hanswer
    exact h a
  | complete h | record h =>
    obtain ⟨a, rfl⟩ := Session.resumeIfOk_goesOn hanswer
    exact h a
  | write h | clear h | setPrompt h | paint h | inputChanged h =>
    cases hanswer
    exact h
  | look h | setInput h | navigate h | register _ _ _ h | offer h | unregister h =>
    cases hanswer
    exact h _

/-- Writing lines is calm. -/
theorem Script.Calm.writeLines {next : Script} (h : next.Calm) (lines : List String) :
    (Script.writeLines lines next).Calm := by
  induction lines with
  | nil => exact h
  | cons line lines ih => exact .write ih

/-- So is writing lines up to a fault. -/
theorem Script.Calm.writeFormed {next : Script} (h : next.Calm) (lines : List (Except Fault String)) :
    (Script.writeFormed next lines).Calm := by
  induction lines with
  | nil => exact h
  | cons line lines ih =>
    cases line with
    | ok line => exact .write ih
    | error f => exact .fail f

/-- A calm script behind a calm one is calm. -/
theorem Script.Calm.andThen {script : Script} (h : script.Calm) {next : Option Verdict → Script}
    (hnext : ∀ verdict, (next verdict).Calm) : (script.andThen next).Calm := by
  induction h with
  | done => exact hnext _
  | fail f => exact .fail f
  | look _ ih => exact .look ih
  | write _ ih => exact .write ih
  | clear _ ih => exact .clear ih
  | hide _ ih => exact .hide ih
  | clearHistory _ ih => exact .clearHistory ih
  | setPrompt _ ih => exact .setPrompt ih
  | paint _ ih => exact .paint ih
  | setInput _ ih => exact .setInput ih
  | inputChanged _ ih => exact .inputChanged ih
  | submit _ ih => exact .submit ih
  | submitInput _ ih => exact .submitInput ih
  | navigate _ ih => exact .navigate ih
  | complete _ ih => exact .complete ih
  | record _ ih => exact .record ih
  | register hgentle hvalidator haction _ _ _ ih => exact .register hgentle hvalidator haction ih
  | offer _ ih => exact .offer ih
  | unregister _ ih => exact .unregister ih

/-- The program of a calm command is calm. -/
theorem Definition.Calm.program {c : Command} (h : c.Calm) (args : List String) : (c.program args).Calm := by
  unfold Definition.program
  cases hvalidator : c.validator with
  | none => exact h.action args
  | some check =>
    refine (h.validator check hvalidator args).andThen fun verdict => ?_
    match verdict with
    | none | some ⟨_, false⟩ => exact .done
    | some ⟨kept, true⟩ => exact h.action kept

/-- The commands of a registry with one more are this one and others that were there before. -/
theorem Registry.mem_commands_insert {r : Registry} {c c' : Command} (h : c' ∈ (r.insert c).commands) :
    c' = c ∨ c' ∈ r.commands := by
  obtain ⟨e, he, rfl⟩ := List.mem_map.mp h
  rcases mem_put he with rfl | he
  · exact Or.inl rfl
  · exact Or.inr (List.mem_map_of_mem he)

/-- A command that is found is registered. -/
theorem Registry.mem_commands_of_lookup {r : Registry} {name : String} {c : Command} (h : r.lookup name = some c) :
    c ∈ r.commands := by
  obtain ⟨e, he, rfl⟩ := Option.map_eq_some_iff.mp h
  exact List.mem_map_of_mem (List.mem_of_find?_eq_some he)

namespace History

/-- Saving is interrupted only by the write. -/
theorem persist_interrupted {h : History} {m : String} (hresult : h.persist.result = .error (.interrupt m)) :
    h.storage.writeFault h.storage.writes = some (.interrupt m) := by
  unfold persist Storage.set at hresult
  cases hfault : h.storage.writeFault h.storage.writes with
  | none => simp [hfault] at hresult
  | some why =>
    cases why with
    | fault f => simp [hfault] at hresult
    | interrupt m' =>
      simp only [hfault] at hresult
      cases hresult
      rfl

/-- So is recording a line. -/
theorem record_interrupted {h : History} {line m : String} (hresult : (h.record line).result = .error (.interrupt m)) :
    h.storage.writeFault h.storage.writes = some (.interrupt m) := by
  unfold record at hresult
  split at hresult
  · refine persist_interrupted (h := h.resetNavigation.push line) ?_
    dsimp only at hresult
    cases hsaved : (h.resetNavigation.push line).persist.result with
    | error why =>
      rw [hsaved] at hresult
      cases hresult
      rfl
    | ok =>
      rw [hsaved] at hresult
      cases hresult
  · cases hresult

end History

/-- A completion request is interrupted only by the completer of a registered command. -/
theorem Completion.complete_interrupted {s : Completion} {input m : String}
    (h : (s.complete input).result = .error (.interrupt m)) :
    ∃ c ∈ s.registry.commands, ∃ ask, c.completer = some ask ∧ ∃ request, ask request = .error (.interrupt m) := by
  have houtcome := congrArg Prod.snd (s.complete_outcome input)
  rw [h] at houtcome
  have hoffers : s.offers (Cycle.baseLine s.cycle input) = .error (.interrupt m) := by
    cases hoffers : s.offers (Cycle.baseLine s.cycle input) with
    | ok cs =>
      rw [hoffers] at houtcome
      cases houtcome
    | error why =>
      rw [hoffers] at houtcome
      cases why <;> cases houtcome
      rfl
  unfold offers at hoffers
  split at hoffers
  · cases hoffers
  · split at hoffers
    · cases hoffers
    · rename_i entry hentry
      split at hoffers
      · cases hoffers
      · rename_i completer hcompleter
        refine ⟨entry.command, List.mem_map_of_mem (List.mem_of_find?_eq_some hentry), completer, hcompleter, ?_⟩
        split at hoffers
        · rename_i why hanswer
          cases hoffers
          exact ⟨_, hanswer⟩
        · rename_i v hanswer
          cases hcandidates : candidates? v <;> rw [hcandidates] at hoffers <;> cases hoffers

namespace Session

open Moment

/-! ## Calm sessions -/

/-- Neither the commands of a session nor its exit handler interrupt it. -/
structure Calm (s : Session) : Prop where
  commands : ∀ c ∈ s.registry.commands, c.Calm
  exitHandler : ∀ m, s.exitHandler ≠ .present (some (.interrupt m))

/-- A calm session is left, whose store fails as before; what has happened was not interrupted but by a write to it. -/
structure StaysCalm (s s' : Session) (interrupted : String → Prop) : Prop where
  calm : s'.Calm
  writeFault : s'.history.storage.writeFault = s.history.storage.writeFault
  interrupt : ∀ m, interrupted m → ∃ n, s.history.storage.writeFault n = some (.interrupt m)

variable {s s' s'' : Session} {interrupted interrupted' : String → Prop}

/-- What is left alone stays calm. -/
theorem Undisturbed.staysCalm (h : Undisturbed s s') (hcalm : s.Calm)
    (hinterrupt : ∀ m, interrupted m → ∃ n, s.history.storage.writeFault n = some (.interrupt m)) :
    StaysCalm s s' interrupted :=
  ⟨⟨fun c hc => hcalm.commands c (h.commands c hc), h.exitHandler ▸ hcalm.exitHandler⟩, h.writeFault, hinterrupt⟩

/-- Fewer interrupts come from the same writes. -/
theorem StaysCalm.mono (h : StaysCalm s s' interrupted) (hfewer : ∀ m, interrupted' m → interrupted m) :
    StaysCalm s s' interrupted' :=
  ⟨h.calm, h.writeFault, fun m hm => h.interrupt m (hfewer m hm)⟩

/-- What went on before was not interrupted. -/
theorem StaysCalm.trans (h : StaysCalm s s' interrupted) (h' : StaysCalm s' s'' interrupted') :
    StaysCalm s s'' interrupted' :=
  ⟨h'.calm, h'.writeFault.trans h.writeFault, h.writeFault ▸ h'.interrupt⟩

/-- What is left alone afterwards stays calm too, and any interrupt is that from before, or comes from a write. -/
theorem StaysCalm.followed (h : StaysCalm s s' interrupted) (hafter : Undisturbed s' s'')
    (hinterrupt : ∀ m, interrupted' m → interrupted m ∨ ∃ n, s'.history.storage.writeFault n = some (.interrupt m)) :
    StaysCalm s s'' interrupted' := by
  refine h.trans (hafter.staysCalm h.calm fun m hm => ?_)
  rcases hinterrupt m hm with hbefore | hwrite
  · exact h.writeFault ▸ h.interrupt m hbefore
  · exact hwrite

/-- A registered command keeps a session calm if it is calm itself. -/
theorem register_calm (hcalm : s.Calm) {c : Command} (hc : c.Calm) : (s.register (.command c)).1.Calm := by
  refine ⟨fun c' hc' => ?_, hcalm.exitHandler⟩
  rcases Registry.mem_commands_insert hc' with rfl | hkept
  · exact hc
  · exact hcalm.commands c' hkept

/-- A calm exit handler may fail. -/
theorem hide_staysCalm (hcalm : s.Calm) : StaysCalm s s.hide.1 fun m => s.hide.2 = .error (.interrupt m) := by
  unfold hide
  split
  · exact ⟨⟨hcalm.commands, hcalm.exitHandler⟩, rfl, fun _ h => by cases h⟩
  · exact ⟨⟨hcalm.commands, hcalm.exitHandler⟩, rfl, fun _ h => by cases h⟩
  · rename_i why hhandler
    refine ⟨⟨hcalm.commands, hcalm.exitHandler⟩, rfl, fun m hm => ?_⟩
    cases hm
    exact absurd hhandler (hcalm.exitHandler m)

/-- Emptying the history is interrupted only by the write. -/
theorem clearHistory_staysCalm (hcalm : s.Calm) :
    StaysCalm s s.clearHistory.1 fun m => s.clearHistory.2 = .error (.interrupt m) := by
  refine (clearHistory_undisturbed s).staysCalm hcalm fun m hm => ⟨s.history.storage.writes, ?_⟩
  refine History.persist_interrupted (h := { s.history.resetNavigation with entries := [] }) ?_
  unfold clearHistory at hm
  split at hm
  · cases hm
  · exact hm

/-- So is recording a line. -/
theorem record_staysCalm (hcalm : s.Calm) (line : String) :
    StaysCalm s (s.record line).1 fun m => (s.record line).2 = .error (.interrupt m) :=
  (record_undisturbed s line).staysCalm hcalm fun _ hm => ⟨_, History.record_interrupted hm⟩

/-- Nothing interrupts a completion request of a calm session. -/
theorem complete_staysCalm (hcalm : s.Calm) :
    StaysCalm s s.complete.1 fun m => s.complete.2 = .error (.interrupt m) := by
  refine (complete_undisturbed s).staysCalm hcalm fun m hm => ?_
  have hstopped : (s.completion.complete s.surface.input).result = .error (.interrupt m) := by
    unfold complete at hm
    split at hm
    · dsimp only at hm
      split at hm
      · rename_i line hline
        cases hwritten : s.surface.faultOfInput line <;> simp [writeInput, hwritten, Except.mapError, Except.map] at hm
      · exact hm
    · cases hm
  obtain ⟨c, hc, ask, hask, request, hinterrupt⟩ := Completion.complete_interrupted hstopped
  exact absurd hinterrupt ((hcalm.commands c hc).gentle ask hask request m)

/-- A submission that interrupts a script was interrupted itself. -/
theorem resume_interrupted {next : Except Fault Bool → Script} {result : Except Stop Bool} {m : String}
    (h : resume next result = .ended (.error (.interrupt m))) : result = .error (.interrupt m) := by
  unfold resume at h
  split at h <;> cases h
  rfl

/-- A request that ends a script has failed. -/
theorem resumeIfOk_ended {α : Type} {next : α → Script} {result : Except Stop α} {why : Stop}
    (h : resumeIfOk next result = .ended (.error why)) : result = .error why := by
  unfold resumeIfOk at h
  split at h <;> cases h
  rfl

/-! ## Calm runs -/

/-- The ways to submit lines that leave calm sessions, and are interrupted only by writes to the store. -/
def SubmitsCalmly (submit : Submit) : Prop :=
  ∀ (s : Session) (line : String), s.Calm → StaysCalm s (submit s line).1 fun m => (submit s line).2 = .error (.interrupt m)

/-- One request of a calm script leaves a calm session. -/
theorem answer_staysCalm {submit : Submit} (hsubmit : SubmitsCalmly submit) (hcalm : s.Calm) {script : Script}
    (hscript : script.Calm) :
    StaysCalm s (s.answer submit script).1 fun m => (s.answer submit script).2 = .ended (.error (.interrupt m)) := by
  cases hscript with
  | done | fail _ | look _ | write _ | clear _ | setPrompt _ | paint _ | setInput _ | inputChanged _ | navigate _
  | unregister _ =>
    refine (answer_undisturbed (fun _ h => ?_) (fun _ _ h => ?_) rfl).staysCalm hcalm fun _ h => ?_ <;> cases h
  | hide _ =>
    refine (hide_staysCalm hcalm).mono fun m hm => ?_
    simp only [answer] at hm
    split at hm <;> cases hm
    assumption
  | clearHistory _ => exact (clearHistory_staysCalm hcalm).mono fun _ => resumeIfOk_ended
  | @submit line _ _ => exact (hsubmit s line hcalm).mono fun _ => resume_interrupted
  | submitInput _ =>
    have hcleared : (s.writeInput "").1.Calm := ⟨hcalm.commands, hcalm.exitHandler⟩
    simp only [answer, submitInputBy, writeInput] at hcleared ⊢
    cases s.surface.faultOfInput "" with
    | error f => exact ⟨hcleared, rfl, fun _ h => by cases h⟩
    | ok =>
      obtain ⟨hleft, hfault, hinterrupt⟩ := hsubmit _ s.surface.input hcleared
      exact ⟨hleft, hfault, fun m hm => hinterrupt m (resume_interrupted hm)⟩
  | complete _ => exact (complete_staysCalm hcalm).mono fun _ => resumeIfOk_ended
  | @record line _ _ => exact (record_staysCalm hcalm line).mono fun _ => resumeIfOk_ended
  | register hgentle hvalidator haction _ =>
    exact ⟨register_calm hcalm ⟨hgentle, hvalidator, haction⟩, rfl, fun _ h => by cases h⟩
  | offer _ => exact ⟨⟨hcalm.commands, hcalm.exitHandler⟩, rfl, fun _ h => by cases h⟩

/-- So does the run of a calm script. -/
theorem run_staysCalm {m : Moment} (hsubmit : SubmitsCalmly (submitWithin m.depth)) (hcalm : m.session.Calm)
    (hscript : m.script.Calm) :
    StaysCalm m.session m.run.1 fun message => m.run.2 = .error (.interrupt message) := by
  -- on the requests that the run passes through; what follows a calm script is calm
  induction m using passes.induct with
  | case1 m ih =>
    have hanswered := answer_staysCalm hsubmit hcalm hscript
    rw [← answered] at hanswered
    rcases hanswer : m.answered with ⟨after, outcome | rest⟩
    · rw [hanswer] at hanswered
      rw [(passes_of_ended hanswer).2]
      exact hanswered.mono fun _ => congrArg Script.Then.ended
    · rw [hanswer] at hanswered
      rw [(passes_of_goesOn hanswer).2]
      have hrest : rest.Calm := hscript.rest ⟨_, _, congrArg Prod.snd hanswer⟩
      exact hanswered.trans (ih after rest hanswer hsubmit hanswered.calm hrest)

/-- A line of a calm session comes to its ending without an interrupt but by a write to the store. -/
theorem Ends.staysCalm {depth : Nat} (hsubmit : SubmitsCalmly (submitWithin depth)) {begun left : Session}
    (hcalm : begun.Calm) {name : String} {args : List String} {ending : Ending}
    (h : Ends (submitWithin depth) begun name args left ending) :
    StaysCalm begun left fun m => ending.result = .error (.interrupt m) := by
  cases hc : begun.registry.lookup name with
  | none =>
    obtain ⟨rfl, rfl⟩ := h.left_of_unknown hc
    exact (Undisturbed.refl left).staysCalm hcalm fun _ h => nomatch h
  | some c =>
    obtain ⟨hleft, hstops⟩ := h.run_program hc
    have hprogram := (hcalm.commands c (Registry.mem_commands_of_lookup hc)).program args
    have hran := run_staysCalm (m := ⟨depth, c.program args, begun⟩) hsubmit hcalm hprogram
    rw [Moment.run, hleft] at hran
    exact hran.mono fun m hm => (hstops _).mp (Ending.of_interrupted hm)

end Session

end CommandConsole
