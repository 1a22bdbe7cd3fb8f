import CommandConsole.Proofs.Session.Passage

/-!
# Lines that are recorded

`Session.historyEvents` lists what happens to the history when a line is submitted: what its program does, and that the
line is finished then; for a line that is submitted by the program, the same comes before. If lines are finished and
nothing else happens, each of them is recorded, whatever it has led to, and the entries are what is left of all these
lines without repetitions, as many as fit (`entries_of_finished`).
-/

namespace CommandConsole

/-- Something that happens to the history: it is emptied, a line is recorded by request, or a line that was submitted is
finished. -/
inductive HistoryEvent where
  | emptied
  | recorded (line : String)
  | finished (line : String)

/-- What happens to the history at a moment, if `ofLine` is what happens when a line is submitted. -/
def Moment.historyEvents (ofLine : Session → String → List HistoryEvent) (m : Moment) : List HistoryEvent :=
  match m.script with
  | .clearHistory _ => [.emptied]
  | .record line _ => [.recorded line]
  | script =>
    match m.session.submission? script with
    | some (s, line) => ofLine s line
    | none => []

namespace Session

open Moment

/-- What happens to the history in the program of a line that is submitted, if `ofLine` is what happens when a line is
submitted by it. -/
def eventsOfProgram (ofLine : Session → String → List HistoryEvent) (depth : Nat) (s : Session) (line : String) :
    List HistoryEvent :=
  match s.call? line with
  | some (program, begun) => (Moment.passes ⟨depth, program, begun⟩).flatMap (Moment.historyEvents ofLine)
  | none => []

/-- What happens to the history when a line is submitted, `depth` levels in all: what happens in its program, and then
the line is finished. A blank line is not executed, nor is one without a level left. -/
def historyEvents : Nat → Session → String → List HistoryEvent
  | 0, _, _ => []
  | depth + 1, s, line =>
    if (strip line).isEmpty then []
    else eventsOfProgram (historyEvents depth) depth s line ++ [.finished (strip line)]

/-- Submits lines one after the other, whatever becomes of them. -/
def submitAll (depth : Nat) (s : Session) (inputs : List String) : Session :=
  inputs.foldl (fun s input => (submitWithin depth s input).1) s

/-- What happens to the history when lines are submitted one after the other. -/
def historyEventsOfAll (depth : Nat) : Session → List String → List HistoryEvent
  | _, [] => []
  | s, input :: inputs => historyEvents depth s input ++ historyEventsOfAll depth (submitWithin depth s input).1 inputs

/-! ## Recording -/

/-- The entries of the second session are those of the first with lines added to them, in the same room, and the mark
for the running line has not been set. -/
structure Records (lines : List String) (s s' : Session) : Prop where
  capacity : s'.history.capacity = s.history.capacity
  entries : s'.history.entries = addLines s.history.capacity s.history.entries lines
  skipRecord : s.skipRecord = false → s'.skipRecord = false

/-- What leaves entries and mark alone adds no lines. -/
theorem SameRecord.records {s s' : Session} (h : SameRecord s s') : Records [] s s' :=
  ⟨h.capacity, h.entries, fun hmark => h.skipRecord.trans hmark⟩

theorem Records.trans {lines more : List String} {s s' s'' : Session} (h : Records lines s s')
    (h' : Records more s' s'') : Records (lines ++ more) s s'' := by
  refine ⟨h'.capacity.trans h.capacity, ?_, fun hmark => h'.skipRecord (h.skipRecord hmark)⟩
  rw [h'.entries, h.capacity, h.entries, addLines_append]

/-- A line begins with the entries as they are. -/
theorem beginLine_records (s : Session) (text : String) : Records [] s (s.beginLine text) :=
  ⟨rfl, rfl, fun _ => rfl⟩

/-- Closing the execution of a line adds it, if the mark has not been set. -/
theorem endLine_records {s : Session} (hmark : s.skipRecord = false) {text : String} (htext : allBlank text = false)
    (result : Except Stop Bool) : Records [text] s (s.endLine text result).1 := by
  have hhistory : (s.endLine text result).1.history = (s.history.record text).state := by
    rw [endLine_history, hmark]
    rfl
  refine ⟨?_, ?_, fun _ => endLine_skipRecord s text result⟩
  · rw [hhistory, History.record_capacity]
  · rw [hhistory, History.record_entries _ htext]
    rfl

/-- Nothing is finished where nothing happens. -/
theorem lines_of_nil {lines : List String} (h : [] = lines.map HistoryEvent.finished) : lines = [] :=
  List.map_eq_nil_iff.mp h.symm

/-- What neither empties the history nor records a line by request leaves it to the line that is submitted. -/
theorem events_of_submission (ofLine : Session → String → List HistoryEvent) {m : Moment}
    (hclear : ∀ next, m.script ≠ .clearHistory next) (hrecord : ∀ line next, m.script ≠ .record line next) :
    m.historyEvents ofLine =
      match m.session.submission? m.script with
      | some (s, line) => ofLine s line
      | none => [] := by
  unfold Moment.historyEvents
  split
  · rename_i next hscript
    exact absurd hscript (hclear next)
  · rename_i line next hscript
    exact absurd hscript (hrecord line next)
  · rfl

/-- A request records what is finished in it, if submissions do and nothing else happens. -/
theorem answered_records {depth : Nat}
    (hline : ∀ s line lines, historyEvents depth s line = lines.map .finished →
      Records lines s (submitWithin depth s line).1)
    (m : Moment) (hdepth : m.depth = depth) {lines : List String}
    (hevents : m.historyEvents (historyEvents depth) = lines.map .finished) :
    Records lines m.session m.answered.1 := by
  have hclear : ∀ next, m.script ≠ .clearHistory next := by
    intro next hscript
    rw [Moment.historyEvents, hscript] at hevents
    cases lines <;> cases hevents
  have hrecord : ∀ line next, m.script ≠ .record line next := by
    intro line next hscript
    rw [Moment.historyEvents, hscript] at hevents
    cases lines <;> cases hevents
  rw [events_of_submission _ hclear hrecord] at hevents
  cases hsubmit : m.session.submission? m.script with
  | none =>
    rw [hsubmit] at hevents
    rw [lines_of_nil hevents]
    exact (answer_sameRecord hclear hrecord hsubmit).records
  | some submission =>
    obtain ⟨s, line⟩ := submission
    rw [hsubmit] at hevents
    obtain ⟨hsame, hanswer⟩ := answer_submission (submitWithin m.depth) hsubmit
    rw [answered, hanswer, hdepth]
    exact hsame.records.trans (hline s line lines hevents)

/-- If submissions record what is finished in them, so does a run. -/
theorem run_records {depth : Nat}
    (hline : ∀ s line lines, historyEvents depth s line = lines.map .finished →
      Records lines s (submitWithin depth s line).1)
    (m : Moment) (hdepth : m.depth = depth) {lines : List String}
    (hevents : m.passes.flatMap (Moment.historyEvents (historyEvents depth)) = lines.map .finished) :
    Records lines m.session m.run.1 := by
  let R : List Moment → Session → Session → Prop := fun ms s s' =>
    ∀ lines, ms.flatMap (Moment.historyEvents (historyEvents depth)) = lines.map .finished → Records lines s s'
  have hone : ∀ m' : Moment, m'.depth = depth → R [m'] m'.session m'.answered.1 := by
    intro m' hdepth' lines hevents
    rw [List.flatMap_singleton] at hevents
    exact answered_records hline m' hdepth' hevents
  have hmore : ∀ {ms ms' : List Moment} {s s' s'' : Session}, R ms s s' → R ms' s' s'' → R (ms ++ ms') s s'' := by
    intro ms ms' s s' s'' h h' lines hevents
    rw [List.flatMap_append] at hevents
    obtain ⟨earlier, later, rfl, hearlier, hlater⟩ := List.append_eq_map_iff.mp hevents
    exact (h earlier hearlier.symm).trans (h' later hlater.symm)
  exact run_related hone hmore m hdepth lines hevents

/-! ## Submissions -/

theorem eventsOfProgram_of_call (ofLine : Session → String → List HistoryEvent) (depth : Nat) {s begun : Session}
    {line : String} {program : Script} (hcall : s.call? line = some (program, begun)) :
    eventsOfProgram ofLine depth s line =
      (Moment.passes ⟨depth, program, begun⟩).flatMap (Moment.historyEvents ofLine) := by
  rw [eventsOfProgram, hcall]

/-- The execution of a line records what is finished in it, if submissions from inside do. -/
theorem execute_records {depth : Nat}
    (hline : ∀ s line lines, historyEvents depth s line = lines.map .finished →
      Records lines s (submitWithin depth s line).1)
    (s : Session) {line : String} (hnotBlank : (strip line).isEmpty = false) {lines : List String}
    (hevents : eventsOfProgram (historyEvents depth) depth s line = lines.map .finished) :
    Records lines (s.beginLine (strip line))
      (execute (submitWithin depth) (s.beginLine (strip line)) (strip line)).1 := by
  rcases execute_told (submitWithin depth) s hnotBlank with ⟨hcall, htold⟩ | ⟨program, hcall, htold⟩
  · rw [eventsOfProgram, hcall] at hevents
    rw [lines_of_nil hevents]
    exact htold.sameRecord.records
  · rw [eventsOfProgram_of_call _ _ hcall] at hevents
    have hrun := run_records hline ⟨depth, program, s.beginLine (strip line)⟩ rfl hevents
    exact List.append_nil lines ▸ hrun.trans htold.sameRecord.records

/-- A submission records what is finished in it. The induction is on the levels of submissions: a line is executed one
level further down, and is recorded on its own level then. -/
theorem submitWithin_records (depth : Nat) (s : Session) (line : String) (lines : List String)
    (hevents : historyEvents depth s line = lines.map .finished) : Records lines s (submitWithin depth s line).1 := by
  induction depth generalizing s line lines with
  | zero =>
    rw [lines_of_nil hevents]
    exact (SameRecord.refl s).records
  | succ depth ih =>
    cases hblank : (strip line).isEmpty with
    | true =>
      rw [historyEvents, if_pos hblank] at hevents
      rw [lines_of_nil hevents, submitWithin_idle (Or.inr hblank)]
      exact (SameRecord.refl s).records
    | false =>
      rw [historyEvents, if_neg (Bool.eq_false_iff.mp hblank)] at hevents
      obtain ⟨inner, last, rfl, hinner, hlast⟩ := List.append_eq_map_iff.mp hevents
      obtain rfl : last = [strip line] := by
        obtain ⟨own, rfl, hown⟩ := List.map_eq_singleton_iff.mp hlast
        cases hown
        rfl
      have hexecuted := execute_records ih s hblank hinner.symm
      have hended := endLine_records (hexecuted.skipRecord rfl) (strip_notBlank hblank)
        (execute (submitWithin depth) (s.beginLine (strip line)) (strip line)).2
      rw [submitWithin_executed depth s hblank]
      exact (beginLine_records s (strip line)).trans (hexecuted.trans hended)

/-- So does a sequence of submissions. -/
theorem submitAll_records (depth : Nat) (s : Session) (inputs lines : List String)
    (hevents : historyEventsOfAll depth s inputs = lines.map .finished) : Records lines s (submitAll depth s inputs) := by
  induction inputs generalizing s lines with
  | nil =>
    rw [lines_of_nil hevents]
    exact (SameRecord.refl s).records
  | cons input inputs ih =>
    obtain ⟨first, others, rfl, hfirst, hothers⟩ := List.append_eq_map_iff.mp hevents
    exact (submitWithin_records depth s input first hfirst.symm).trans (ih _ others hothers.symm)

/-- **The entries after any submissions.** A session has a history that was opened with some room, and whatever has
happened to it since. Lines are submitted to it, one after the other, which may submit further lines, but nothing else
happens to the history. Then the entries are the lines that were finished, in this order behind the entries from before,
without those that repeat the one before them, and as many of the last ones as there is room for. -/
theorem entries_of_finished {storage : Storage} {capacity : Int} {key : String} {opened : Step History Unit}
    (hopen : History.init storage capacity key = .ok opened) (earlier : List History.Event) {s : Session}
    (hhistory : s.history = opened.state.undergoAll earlier) (depth : Nat) (inputs lines : List String)
    (hevents : historyEventsOfAll depth s inputs = lines.map .finished) :
    (submitAll depth s inputs).history.entries =
      takeLast capacity.toNat (collapseRepeats (s.history.entries ++ lines)) := by
  obtain ⟨hroom, hcapacity, hsound⟩ := History.init_sound hopen
  have hsize : s.history.capacity = capacity.toNat := by
    rw [hhistory, History.undergoAll_capacity, hcapacity]
  have htidy : Tidy capacity.toNat s.history.entries := by
    rw [← hsize, hhistory]
    exact (History.undergoAll_sound earlier hsound).tidy
  rw [(submitAll_records depth s inputs lines hevents).entries, hsize]
  exact addLines_eq (by omega) htidy lines

namespace NestedLines

/-- A store with two lines. -/
def store : Storage where
  table := [("lines", "[\"before\", \"echo\"]")]

/-- Submits a line that is not that of a command, and fails then. -/
def ring : Script := .submit " echo " fun _ => .stop (.fault ⟨.value, "broken"⟩)

/-- A console with one command. -/
def console (history : History) : Session where
  completion := { registry := ⟨[⟨"ring", { name := "ring", action := fun _ => ring, usage := .string "ring" }, 0⟩]⟩ }
  history
  prompt := ">"

end NestedLines

open NestedLines in
/-- A line whose action submits another one and fails, a blank line, and that other line again. -/
theorem entries_of_finished_nested :
    ∃ opened, History.init store 2 "lines" = .ok opened ∧
      let s := console opened.state
      let inputs := [" ring ", " ", "echo"]
      historyEventsOfAll nestingLimit s inputs = ["echo", "ring", "echo"].map .finished ∧
        (submitAll nestingLimit s inputs).history.entries = ["ring", "echo"] := by
  refine ⟨_, rfl, ?_⟩
  intro s inputs
  have hevents : historyEventsOfAll nestingLimit s inputs = ["echo", "ring", "echo"].map .finished := by
    let begun : Session := s.beginLine "ring"
    let echoed : Session := (submitWithin 246 begun " echo ").1
    have hring : s.call? " ring " = some (ring, begun) := by rfl
    have hsubmit := (passes_of_goesOn (show Moment.answered ⟨246, ring, begun⟩ =
      (echoed, .goesOn (.stop (.fault ⟨.value, "broken"⟩))) by rfl)).1
    have hstop := (passes_of_ended (show Moment.answered ⟨246, .stop (.fault ⟨.value, "broken"⟩), echoed⟩ =
      (echoed, .ended (.error (.fault ⟨.value, "broken"⟩))) by rfl)).1
    have hprogram : eventsOfProgram (historyEvents 246) 246 s " ring " = [.finished "echo"] := by
      rw [eventsOfProgram_of_call _ _ hring, hsubmit, hstop]
      rfl
    have hfirst : historyEvents nestingLimit s " ring " = [.finished "echo", .finished "ring"] := by
      rw [nestingLimit, historyEvents, hprogram]
      rfl
    rw [historyEventsOfAll, hfirst]
    rfl
  exact ⟨hevents, entries_of_finished (show History.init store 2 "lines" = .ok _ from rfl) [] (s := s) rfl nestingLimit
    inputs _ hevents⟩

end Session

end CommandConsole
