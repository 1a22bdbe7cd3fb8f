import CommandConsole.Proofs.History.Restart
import CommandConsole.Proofs.Session.Passage

/-!
# Writes that are lost

A history that cannot be saved is kept all the same, and nothing that a session does depends on what its store has made
of a write, unless it was interrupted. Two sessions are `Twins` if they differ only in what is stored and noted, and the
same writes are interrupted. Twins answer each request alike (`answer_twins`), so scripts and submitted lines leave twins
with the same results (`run_twins`, `submitWithin_twins`), and so does whatever happens to a session from outside
(`respond_twins`). `lost_writes_unseen` says so of everything that can be seen of two sessions after each event, from
their start on.
-/

namespace CommandConsole

/-- The store has been written as often as another one, and the same writes are interrupted. Which writes fail and what is
stored may differ. -/
structure Storage.InterruptedAlike (s t : Storage) : Prop where
  writes : t.writes = s.writes
  interrupts : ∀ n m, t.writeFault n = some (.interrupt m) ↔ s.writeFault n = some (.interrupt m)

/-- A write leaves two stores as they were to each other. -/
theorem Storage.InterruptedAlike.set {s t : Storage} (h : s.InterruptedAlike t) (key text : String) :
    (s.set key text).1.InterruptedAlike (t.set key text).1 := by
  refine ⟨by rw [set_writes, set_writes, h.writes], ?_⟩
  rw [(set_alike s key text).writeFault, (set_alike t key text).writeFault]
  exact h.interrupts

namespace History

/-- Two histories that differ in their stores only, of which the same writes are interrupted. -/
def Twins (h h' : History) : Prop := ∃ storage, h' = { h with storage } ∧ h.storage.InterruptedAlike storage

variable {h h' : History}

/-- Saving is interrupted in both or in none, and a failure has no other effect than a note. -/
theorem persist_twins (ht : h.Twins h') :
    h.persist.state.Twins h'.persist.state ∧ h'.persist.result = h.persist.result := by
  obtain ⟨storage, rfl, halike⟩ := ht
  constructor
  · rw [persist_state, persist_state]
    exact ⟨_, rfl, halike.set _ _⟩
  · have hinterrupts := halike.interrupts h.storage.writes
    simp only [persist, Storage.set, halike.writes]
    rcases hfault : h.storage.writeFault h.storage.writes with _ | (f | m) <;>
      rcases hfault' : storage.writeFault h.storage.writes with _ | (f' | m') <;>
      simp_all

/-- Twins admit the same lines. -/
theorem record_twins (ht : h.Twins h') (line : String) :
    (h.record line).state.Twins (h'.record line).state ∧ (h'.record line).result = (h.record line).result := by
  obtain ⟨storage, rfl, halike⟩ := ht
  have hsaved : (h.resetNavigation.push line).Twins (({ h with storage } : History).resetNavigation.push line) :=
    ⟨storage, rfl, halike⟩
  obtain ⟨hstate, hresult⟩ := persist_twins hsaved
  unfold record
  rw [show ({ h with storage } : History).admits line = h.admits line from rfl]
  split
  · exact ⟨hstate, congrArg (Except.map fun _ => true) hresult⟩
  · exact ⟨⟨storage, rfl, halike⟩, rfl⟩

/-- Twins lose the same entries. -/
theorem clear_twins (ht : h.Twins h') :
    h.clear.state.Twins h'.clear.state ∧ h'.clear.result = h.clear.result := by
  obtain ⟨storage, rfl, halike⟩ := ht
  exact persist_twins ⟨storage, rfl, halike⟩

/-- Moving has nothing to do with the store. -/
theorem navigate_twins (ht : h.Twins h') (d : Direction) (current : String) :
    (h.navigate d current).1.Twins (h'.navigate d current).1 ∧
      (h'.navigate d current).2 = (h.navigate d current).2 := by
  obtain ⟨storage, rfl, halike⟩ := ht
  have hmoved : ({ h with storage } : History).navigate d current =
      ({ (h.navigate d current).1 with storage }, (h.navigate d current).2) := by
    obtain ⟨_, key, capacity, entries, walk⟩ := h
    unfold navigate
    dsimp only
    split
    · rfl
    · rcases d with _ | _ <;> rcases walk with _ | ⟨_ | back, draft⟩
      · rfl
      · dsimp only
        split <;> rfl
      · dsimp only
        split <;> rfl
      · rfl
      · rfl
      · rfl
  have hstorage : (h.navigate d current).1.storage = h.storage := (navigate_edited h d current).1.storage
  rw [hmoved]
  exact ⟨⟨storage, rfl, hstorage ▸ halike⟩, rfl⟩

end History

namespace Session

/-- Two sessions that differ only in what is stored and noted, and of whose stores the same writes are interrupted. -/
def Twins (s s' : Session) : Prop :=
  ∃ storage notes, s' = { s with history := { s.history with storage }, notes } ∧
    s.history.storage.InterruptedAlike storage

/-- What two sessions come to alike: twins are left, and the results are the same. -/
def Alike {α : Type} (outcome outcome' : Session × α) : Prop :=
  Twins outcome.1 outcome'.1 ∧ outcome'.2 = outcome.2

/-- What follows from the results follows alike. -/
theorem Alike.followed {α β : Type} {outcome outcome' : Session × α} (h : Alike outcome outcome') (next : α → β) :
    Alike (outcome.1, next outcome.2) (outcome'.1, next outcome'.2) :=
  ⟨h.1, congrArg next h.2⟩

variable {s s' : Session}

/-! ## Parts of a session -/

/-- The histories of twins are twins. -/
theorem Twins.history (h : Twins s s') : s.history.Twins s'.history := by
  obtain ⟨storage, notes, rfl, halike⟩ := h
  exact ⟨storage, rfl, halike⟩

/-- What is done alike to the histories of twins is done alike to the twins. -/
theorem onHistory_alike {α : Type} (h : Twins s s') {step step' : Step History α}
    (hstep : step.state.Twins step'.state ∧ step'.result = step.result) :
    Alike (s.onHistory step) (s'.onHistory step') := by
  obtain ⟨storage, notes, rfl, -⟩ := h
  obtain ⟨⟨left, hleft, halike⟩, hresult⟩ := hstep
  exact ⟨⟨left, _, by rw [onHistory, hleft]; rfl, halike⟩, hresult⟩

theorem record_alike (h : Twins s s') (line : String) : Alike (s.record line) (s'.record line) :=
  onHistory_alike h (History.record_twins h.history line)

theorem clearHistory_alike (h : Twins s s') : Alike s.clearHistory s'.clearHistory := by
  have hcleared := onHistory_alike h (History.clear_twins h.history)
  unfold clearHistory
  rcases hs : s.onHistory s.history.clear with ⟨left, why | _⟩ <;>
    rcases hs' : s'.onHistory s'.history.clear with ⟨left', why' | _⟩ <;>
    rw [hs, hs'] at hcleared
  · exact hcleared
  · cases hcleared.2
  · cases hcleared.2
  · obtain ⟨⟨storage, notes, rfl, halike⟩, -⟩ := hcleared
    exact ⟨⟨storage, notes, rfl, halike⟩, rfl⟩

theorem hide_alike (h : Twins s s') : Alike s.hide s'.hide := by
  obtain ⟨storage, notes, rfl, halike⟩ := h
  obtain ⟨_, _, _, _, _, _, handler, _, _, _, _⟩ := s
  rcases handler with _ | (_ | why)
  · exact ⟨⟨storage, _, rfl, halike⟩, rfl⟩
  · exact ⟨⟨storage, notes, rfl, halike⟩, rfl⟩
  · exact ⟨⟨storage, notes, rfl, halike⟩, rfl⟩

theorem inputChanged_twins (h : Twins s s') (text : String) : Twins (s.inputChanged text) (s'.inputChanged text) := by
  obtain ⟨storage, notes, rfl, halike⟩ := h
  unfold inputChanged
  dsimp only
  split <;> exact ⟨storage, notes, rfl, halike⟩

theorem setInput_alike (h : Twins s s') (text : String) : Alike (s.setInput text) (s'.setInput text) := by
  have hchanged : Twins { s with surface := s.surface.setInput text } { s' with surface := s'.surface.setInput text } := by
    obtain ⟨storage, notes, rfl, halike⟩ := h
    exact ⟨storage, notes, rfl, halike⟩
  have hsurface : s'.surface = s.surface := by
    obtain ⟨storage, notes, rfl, -⟩ := h
    rfl
  unfold setInput
  dsimp only
  rw [hsurface] at hchanged ⊢
  refine ⟨?_, rfl⟩
  dsimp only
  split
  · exact inputChanged_twins hchanged text
  · exact hchanged

theorem navigate_alike (h : Twins s s') (direction : Value) : Alike (s.navigate direction) (s'.navigate direction) := by
  unfold navigate
  cases Direction.parse direction with
  | error f => exact ⟨h, rfl⟩
  | ok d =>
    have hmoved := History.navigate_twins h.history d s.surface.input
    obtain ⟨storage, notes, rfl, -⟩ := h
    obtain ⟨⟨left, hleft, halike⟩, hfound⟩ := hmoved
    simp only [navigateTo]
    rw [hleft, hfound]
    split
    · exact ⟨⟨left, notes, rfl, halike⟩, rfl⟩
    · exact ⟨⟨left, notes, rfl, halike⟩, rfl⟩

theorem complete_alike (h : Twins s s') : Alike s.complete s'.complete := by
  obtain ⟨storage, notes, rfl, halike⟩ := h
  unfold complete
  dsimp only
  split
  · split <;> exact ⟨⟨storage, _, rfl, halike⟩, rfl⟩
  · exact ⟨⟨storage, notes, rfl, halike⟩, rfl⟩

theorem beginLine_twins (h : Twins s s') (text : String) : Twins (s.beginLine text) (s'.beginLine text) := by
  obtain ⟨storage, notes, rfl, halike⟩ := h
  exact ⟨storage, notes, rfl, halike⟩

theorem endLine_alike (h : Twins s s') (text : String) (result : Except Stop Bool) :
    Alike (s.endLine text result) (s'.endLine text result) := by
  have hskip : s'.skipRecord = s.skipRecord := by
    obtain ⟨storage, notes, rfl, -⟩ := h
    rfl
  have hrecorded := record_alike h text
  unfold endLine
  rw [hskip]
  split
  · obtain ⟨storage, notes, rfl, halike⟩ := h
    exact ⟨⟨storage, notes, rfl, halike⟩, rfl⟩
  · rcases hs : s.record text with ⟨left, why | _⟩ <;>
      rcases hs' : s'.record text with ⟨left', why' | _⟩ <;>
      rw [hs, hs'] at hrecorded <;> obtain ⟨hleft, hresult⟩ := hrecorded <;> cases hresult
    · exact ⟨hleft, rfl⟩
    · exact ⟨hleft, rfl⟩

/-! ## Requests, scripts and lines -/

/-- A way to submit lines leaves twins with the same results. -/
def SubmitsAlike (submit : Submit) : Prop :=
  ∀ {s s' : Session}, Twins s s' → ∀ line, Alike (submit s line) (submit s' line)

theorem submitInputBy_alike {submit : Submit} (hsubmit : SubmitsAlike submit) (h : Twins s s') :
    Alike (submitInputBy submit s) (submitInputBy submit s') := by
  obtain ⟨storage, notes, rfl, halike⟩ := h
  have hcleared : Twins (s.writeInput "").1
      (({ s with history := { s.history with storage }, notes } : Session).writeInput "").1 :=
    ⟨storage, notes, rfl, halike⟩
  simp only [submitInputBy, writeInput] at hcleared ⊢
  cases s.surface.faultOfInput "" with
  | error f => exact ⟨hcleared, rfl⟩
  | ok => exact hsubmit hcleared s.surface.input

/-- Twins answer a request alike: a script goes on in the same way. -/
theorem answer_twins {submit : Submit} (hsubmit : SubmitsAlike submit) (h : Twins s s') (script : Script) :
    Alike (s.answer submit script) (s'.answer submit script) := by
  cases script with
  | done _ | stop _ => exact ⟨h, rfl⟩
  | look _ | write _ _ | clear _ | setPrompt _ _ | paint _ _ | register _ _ | unregister _ _ =>
    obtain ⟨storage, notes, rfl, halike⟩ := h
    exact ⟨⟨storage, _, rfl, halike⟩, rfl⟩
  | hide _ =>
    obtain ⟨hleft, hresult⟩ := hide_alike h
    exact ⟨hleft, by simp only [answer, hresult]⟩
  | clearHistory next => exact (clearHistory_alike h).followed (resumeIfOk fun _ => next)
  | setInput text next => exact (setInput_alike h text).followed fun result => Script.Then.goesOn (next (problem? result))
  | inputChanged text _ => exact ⟨inputChanged_twins h text, rfl⟩
  | submit line next => exact (hsubmit h line).followed (resume next)
  | submitInput next => exact (submitInputBy_alike hsubmit h).followed (resume next)
  | navigate direction next => exact (navigate_alike h direction).followed fun result => Script.Then.goesOn (next result)
  | complete next => exact (complete_alike h).followed (resumeIfOk next)
  | record line next => exact (record_alike h line).followed (resumeIfOk next)

/-- A script runs alike in twins. -/
theorem run_twins {submit : Submit} (hsubmit : SubmitsAlike submit) (script : Script) :
    ∀ {s s' : Session}, Twins s s' → Alike (run submit script s) (run submit script s') := by
  -- on what is left of the script
  induction script using follows_wf.induction with
  | _ script ih =>
    intro s s' h
    obtain ⟨hleft, hthen⟩ := answer_twins hsubmit h script
    rw [run_eq submit script s, run_eq submit script s']
    rcases hs : s.answer submit script with ⟨left, outcome | rest⟩ <;>
      rcases hs' : s'.answer submit script with ⟨left', then'⟩ <;>
      rw [hs, hs'] at hleft hthen <;> cases hthen
    · exact ⟨hleft, rfl⟩
    · exact ih rest ⟨submit, s, congrArg Prod.snd hs⟩ hleft

theorem writeLine_twins (h : Twins s s') (text : String) : Twins (s.writeLine text) (s'.writeLine text) := by
  obtain ⟨storage, notes, rfl, halike⟩ := h
  exact ⟨storage, notes, rfl, halike⟩

theorem reportFault_alike (h : Twins s s') (name : String) (f : Fault) :
    Alike (s.reportFault name f) (s'.reportFault name f) := by
  obtain ⟨storage, notes, rfl, halike⟩ := h
  unfold reportFault
  cases f.message <;> exact ⟨⟨storage, _, rfl, halike⟩, rfl⟩

theorem reportRejection_alike (h : Twins s s') (name : String) (usage : Value) :
    Alike (s.reportRejection name usage) (s'.reportRejection name usage) := by
  have htold := writeLine_twins h s!"Error: Invalid arguments for command '{name}'"
  unfold reportRejection
  cases usage.written with
  | ok usage => exact ⟨writeLine_twins htold _, rfl⟩
  | error f => exact reportFault_alike htold name f

/-- A command judges arguments alike in twins. -/
theorem judge_alike {submit : Submit} (hsubmit : SubmitsAlike submit) (h : Twins s s') (c : Command)
    (args : List String) : Alike (s.judge submit c args) (s'.judge submit c args) := by
  unfold judge
  cases c.validator with
  | none => exact ⟨h, rfl⟩
  | some check => exact (run_twins hsubmit (check args) h).followed (Except.map fun verdict => verdict.getD ⟨args, false⟩)

/-- A command is carried out alike in twins. -/
theorem obey_alike {submit : Submit} (hsubmit : SubmitsAlike submit) (h : Twins s s') (name : String) (c : Command)
    (args : List String) : Alike (s.obey submit name c args) (s'.obey submit name c args) := by
  have hjudge := judge_alike hsubmit h c args
  unfold obey
  rcases hs : s.judge submit c args with ⟨judged, verdict⟩
  rcases hs' : s'.judge submit c args with ⟨judged', verdict'⟩
  rw [hs, hs'] at hjudge
  obtain ⟨hjudged, hverdict⟩ := hjudge
  cases hverdict
  rcases verdict with (f | m) | ⟨kept, (_ | _)⟩
  · exact reportFault_alike hjudged name f
  · exact ⟨hjudged, rfl⟩
  · exact reportRejection_alike hjudged name c.usage
  · have hrun := run_twins hsubmit (c.action kept) hjudged
    dsimp only
    rcases hs : run submit (c.action kept) judged with ⟨left, outcome⟩
    rcases hs' : run submit (c.action kept) judged' with ⟨left', outcome'⟩
    rw [hs, hs'] at hrun
    obtain ⟨hleft, houtcome⟩ := hrun
    cases houtcome
    rcases outcome with (f | m) | _
    · exact reportFault_alike hleft name f
    · exact ⟨hleft, rfl⟩
    · exact ⟨hleft, rfl⟩

/-- A line is executed alike in twins. -/
theorem execute_twins {submit : Submit} (hsubmit : SubmitsAlike submit) (h : Twins s s') (text : String) :
    Alike (execute submit s text) (execute submit s' text) := by
  have hregistry : s'.registry = s.registry := by
    obtain ⟨storage, notes, rfl, -⟩ := h
    rfl
  simp only [execute, hregistry]
  cases s.registry.lookup (Line.splitCommand text).1 with
  | none => exact ⟨writeLine_twins h _, rfl⟩
  | some command => exact obey_alike hsubmit h _ command _

/-- A line is submitted alike to twins, whatever its command submits itself. -/
theorem submitWithin_twins (depth : Nat) : SubmitsAlike (submitWithin depth) := by
  -- the lines that an action submits are one level further down
  induction depth with
  | zero => exact fun h _ => ⟨h, rfl⟩
  | succ depth ih =>
    intro s s' h line
    cases hline : (strip line).isEmpty with
    | true =>
      simp only [submitWithin, hline, if_true]
      exact ⟨h, rfl⟩
    | false =>
      obtain ⟨hleft, hresult⟩ := execute_twins ih (beginLine_twins h (strip line)) (strip line)
      rw [submitWithin_executed depth s hline, submitWithin_executed depth s' hline, hresult]
      exact endLine_alike hleft (strip line) _

/-! ## Events -/

/-- Something that happens to a session from outside. -/
inductive Event where
  | submit (line : String)
  | submitInput
  | navigate (direction : Value)
  | complete
  /-- The input line comes to hold a text, and that is not reported. -/
  | type (text : String)
  | inputChanged (text : String)
  | clearHistory
  | register (draft : Draft)
  /-- A value is put forward for registration that is no command. -/
  | offer (value : Value)
  | unregister (name : String)
  /-- From now on the commands do something else. -/
  | rewire (commands : Entry → Command)

/-- What an event gives back. -/
inductive Reply where
  | nothing
  | completed (result : Except Stop Bool)
  | found (result : Except Fault String)
  | line (result : Except Stop (Option String))
  | emptied (result : Except Stop Unit)
  | registered (result : Except Stop Command)
  | removed (command : Option Command)

/-- What a session makes of an event. -/
def respond (s : Session) : Event → Session × Reply
  | .submit line => ((s.submit line).1, .completed (s.submit line).2)
  | .submitInput => (s.submitInput.1, .completed s.submitInput.2)
  | .navigate direction => ((s.navigate direction).1, .found (s.navigate direction).2)
  | .complete => (s.complete.1, .line s.complete.2)
  | .type text => ({ s with surface := { s.surface with input := text } }, .nothing)
  | .inputChanged text => (s.inputChanged text, .nothing)
  | .clearHistory => (s.clearHistory.1, .emptied s.clearHistory.2)
  | .register draft => ((s.registerDraft draft).1, .registered (s.registerDraft draft).2)
  | .offer value => ((s.register (.value value)).1, .registered (s.register (.value value)).2)
  | .unregister name => ((s.unregister name).1, .removed (s.unregister name).2)
  | .rewire commands =>
    (s.withRegistry ⟨s.registry.entries.map fun e => { e with command := commands e }⟩, .nothing)

/-- The sessions after each of many events, and what the events give back. -/
def respondAll (s : Session) : List Event → List (Session × Reply)
  | [] => []
  | event :: events => s.respond event :: (s.respond event).1.respondAll events

/-- All of a session but what is stored and noted. -/
def visible (s : Session) : Session := { s with history := { s.history with storage := {} }, notes := [] }

/-- Twins look the same. -/
theorem Twins.visible_eq (h : Twins s s') : s'.visible = s.visible := by
  obtain ⟨storage, notes, rfl, -⟩ := h
  rfl

/-- A draft is refused or registered alike. -/
theorem registerDraft_alike (h : Twins s s') (draft : Draft) : Alike (s.registerDraft draft) (s'.registerDraft draft) := by
  obtain ⟨storage, notes, rfl, halike⟩ := h
  unfold registerDraft
  cases draft.build with
  | error e => exact ⟨⟨storage, notes, rfl, halike⟩, rfl⟩
  | ok c => exact ⟨⟨storage, _, rfl, halike⟩, rfl⟩

/-- Twins make the same of an event. -/
theorem respond_twins (h : Twins s s') (event : Event) : Alike (s.respond event) (s'.respond event) := by
  cases event with
  | submit line => exact (submitWithin_twins nestingLimit h line).followed Reply.completed
  | submitInput => exact (submitInputBy_alike (submitWithin_twins nestingLimit) h).followed Reply.completed
  | navigate direction => exact (navigate_alike h direction).followed Reply.found
  | complete => exact (complete_alike h).followed Reply.line
  | type text =>
    obtain ⟨storage, notes, rfl, halike⟩ := h
    exact ⟨⟨storage, notes, rfl, halike⟩, rfl⟩
  | inputChanged text => exact ⟨inputChanged_twins h text, rfl⟩
  | clearHistory => exact (clearHistory_alike h).followed Reply.emptied
  | register draft => exact (registerDraft_alike h draft).followed Reply.registered
  | offer _ | unregister _ | rewire _ =>
    obtain ⟨storage, notes, rfl, halike⟩ := h
    exact ⟨⟨storage, _, rfl, halike⟩, rfl⟩

/-- After each of many events, twins look the same, and each event has given the same back. -/
theorem respondAll_twins (events : List Event) :
    ∀ {s s' : Session}, Twins s s' →
      (s'.respondAll events).map (fun (t, reply) => (t.visible, reply)) =
        (s.respondAll events).map (fun (t, reply) => (t.visible, reply)) := by
  induction events with
  | nil => exact fun _ => rfl
  | cons event events ih =>
    intro s s' h
    obtain ⟨hleft, hreply⟩ := respond_twins h event
    simp only [respondAll, List.map_cons, hleft.visible_eq, hreply, ih hleft]

/-! ## From the start on -/

/-- A session before its greeting, with the entries that were read back and the notes that were taken on it. -/
def opened (setup : Setup) (entries : List String) (notes : List LogRecord) : Session where
  surface := setup.surface
  completion := { registry := if setup.installsDefaults then Defaults.install setup.registry else setup.registry }
  history := {
    storage := (setup.storage.get setup.settings.historyKey).1
    key := setup.settings.historyKey
    capacity := setup.settings.historySize.toNat
    entries }
  prompt := setup.settings.promptSymbol
  completes := setup.settings.completes
  exitHandler := setup.exitHandler
  notes

/-- The greeting leaves the history. -/
theorem greet_history (s : Session) (welcome : Option String) : (s.greet welcome).history = s.history := by
  unfold greet
  split
  · rfl
  · split <;> rfl

/-- A session starts at the live line, with the entries that are read back, and shows the greeting. -/
theorem start_eq {setup : Setup} (h : start setup = .ok s) :
    ∃ notes, s = (opened setup s.history.entries notes).greet setup.settings.welcome := by
  unfold start History.init at h
  split at h
  · cases h
  · simp only [Except.mapError, bind, Except.bind, pure, Except.pure] at h
    split at h
    · cases h
    · cases h
      refine ⟨(History.restore
        ⟨setup.storage, setup.settings.historyKey, setup.settings.historySize.toNat, [], none⟩).notes, ?_⟩
      rw [greet_history, History.restore_state]
      rfl

/-- Twins are greeted alike. -/
theorem greet_twins (h : Twins s s') (welcome : Option String) : Twins (s.greet welcome) (s'.greet welcome) := by
  obtain ⟨storage, notes, rfl, halike⟩ := h
  unfold greet
  split
  · exact ⟨storage, notes, rfl, halike⟩
  · split <;> exact ⟨storage, notes, rfl, halike⟩

/-- Sessions that are started alike, but for stores of which the same writes are interrupted, are twins if the same
entries were read back. -/
theorem start_twins {setup : Setup} {other : Storage} (halike : setup.storage.InterruptedAlike other)
    (hstart : start setup = .ok s) (hstart' : start { setup with storage := other } = .ok s')
    (hentries : s'.history.entries = s.history.entries) : Twins s s' := by
  obtain ⟨notes, hs⟩ := start_eq hstart
  obtain ⟨notes', hs'⟩ := start_eq hstart'
  rw [hentries] at hs'
  rw [hs, hs']
  exact greet_twins ⟨_, notes', rfl, halike.writes, halike.interrupts⟩ _

/-- **Writes that fail cannot be seen.** Two sessions start with the same entries, settings, commands and surface, on
stores of which the same writes are interrupted, whatever other writes fail. The same events happen to both. Then after
each event all of the two sessions but what is stored and noted is the same, and the event has given the same back. -/
theorem lost_writes_unseen (setup : Setup) (other : Storage) (halike : setup.storage.InterruptedAlike other)
    {s s' : Session} (hstart : start setup = .ok s) (hstart' : start { setup with storage := other } = .ok s')
    (hentries : s'.history.entries = s.history.entries) (events : List Event) :
    s'.visible = s.visible ∧
      (s'.respondAll events).map (fun (t, reply) => (t.visible, reply)) =
        (s.respondAll events).map (fun (t, reply) => (t.visible, reply)) :=
  have htwins := start_twins halike hstart hstart' hentries
  ⟨htwins.visible_eq, respondAll_twins events htwins⟩

namespace FullDisk

/-- A command that empties the history between two lines that it submits. -/
def wipe : Command where
  name := "wipe"
  action _ := .submit "one" fun _ => .clearHistory (.submit "two" fun _ => .done)
  usage := .string "wipe"

/-- A console with this command, and a stored line. -/
def setup : Setup where
  registry := ({} : Registry).insert wipe
  storage := { table := [("termcore.history", "[\"old\"]")] }
  settings := { welcome := none, historySize := 2 }
  installsDefaults := false

/-- The same store, when all writes but the first one fail. -/
def full : Storage := { setup.storage with writeFault := fun n => if n = 0 then none else some (.fault ⟨.os, "disk full"⟩) }

/-- No write is interrupted. -/
theorem full_alike : setup.storage.InterruptedAlike full := by
  refine ⟨rfl, fun n m => ?_⟩
  constructor
  · intro h
    simp only [full] at h
    split at h <;> cases h
  · intro h
    cases h

/-- The command is run, and then again after a step back through the history. -/
def events : List Event := [.submit "Wipe", .navigate (.string "up"), .submitInput, .type "WI", .complete, .clearHistory]

end FullDisk

open FullDisk in
/-- What the session shows is the same on the full disk, where what is stored is not. -/
theorem lost_writes_unseen_fullDisk :
    setup.storage.InterruptedAlike full ∧
      ∃ s s', start setup = .ok s ∧ start { setup with storage := full } = .ok s' ∧
        s'.history.entries = s.history.entries ∧ s.history.entries = ["old"] ∧
        (s'.respondAll events).map (fun (t, reply) => (t.visible, reply)) =
          (s.respondAll events).map (fun (t, reply) => (t.visible, reply)) ∧
        (s.respondAll events).map (·.1.history.entries) =
          [["two", "Wipe"], ["two", "Wipe"], ["two", "Wipe"], ["two", "Wipe"], ["two", "Wipe"], []] ∧
        ((s.respondAll events).map (·.1.history.stored?)).getLast? = some (some "[]") ∧
        ((s'.respondAll events).map (·.1.history.stored?)).getLast? = some (some "[\"old\", \"one\"]") := by
  refine ⟨full_alike, _, _, by rfl, by rfl, by rfl, by rfl, ?_, by rfl, by rfl, by rfl⟩
  exact (lost_writes_unseen setup full full_alike (by rfl) (by rfl) (by rfl) events).2

end Session

end CommandConsole
