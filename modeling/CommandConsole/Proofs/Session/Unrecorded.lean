import CommandConsole.Proofs.Session.Passage

/-!
# Lines that are not recorded

A command that empties the history sets the mark that its own line is not to be recorded. The mark stands at the end of
its run exactly if no line was submitted and executed since (`run_skipRecord`): each such line takes it away. So the line
of the command is not recorded if the history was emptied last, and it is recorded otherwise
(`recorded_unless_emptied_last`), even into the history that its own command has emptied (`emptied_then_recorded`).
-/

namespace CommandConsole

namespace Session

open Moment

/-! ## The mark -/

/-- Of these moments, one empties the history, and at none after it a line is executed. -/
def EmptiedLast (ms : List Moment) : Prop :=
  ∃ before cleared later, ms = before ++ cleared :: later ∧ cleared.Clears ∧ ∀ m ∈ later, ¬ m.Submits

theorem emptiedLast_nil : ¬ EmptiedLast [] := by
  rintro ⟨before, cleared, later, h, -⟩
  cases before <;> cases h

/-- The history was emptied last later on, or at the first moment. -/
theorem emptiedLast_cons {m : Moment} {ms : List Moment} :
    EmptiedLast (m :: ms) ↔ EmptiedLast ms ∨ (m.Clears ∧ ∀ m' ∈ ms, ¬ m'.Submits) := by
  constructor
  · rintro ⟨before, cleared, later, h, hclears, hlater⟩
    cases before with
    | nil =>
      cases h
      exact Or.inr ⟨hclears, hlater⟩
    | cons first before =>
      cases h
      exact Or.inl ⟨before, cleared, later, rfl, hclears, hlater⟩
  · rintro (⟨before, cleared, later, rfl, hclears, hlater⟩ | ⟨hclears, hlater⟩)
    · exact ⟨m :: before, cleared, later, rfl, hclears, hlater⟩
    · exact ⟨[], m, ms, rfl, hclears, hlater⟩

/-- The history was emptied last in the second part, or in the first one with no line executed in the second. -/
theorem emptiedLast_append {ms ms' : List Moment} :
    EmptiedLast (ms ++ ms') ↔ EmptiedLast ms' ∨ (EmptiedLast ms ∧ ∀ m ∈ ms', ¬ m.Submits) := by
  induction ms with
  | nil => simp [emptiedLast_nil]
  | cons m ms ih =>
    rw [List.cons_append, emptiedLast_cons, ih, emptiedLast_cons, List.forall_mem_append]
    tauto

/-- A submission that executes a line takes the mark away. -/
theorem submitWithin_skipRecord (depth : Nat) (s : Session) {line : String} (h : (strip line).isEmpty = false) :
    (submitWithin (depth + 1) s line).1.skipRecord = false := by
  rw [submitWithin_executed depth s h]
  exact endLine_skipRecord _ _ _

/-- The mark stands after a request if the request has set it, or if it stood before and no line was executed. -/
theorem answered_skipRecord (m : Moment) :
    m.answered.1.skipRecord = true ↔ m.Clears ∨ (¬ m.Submits ∧ m.session.skipRecord = true) := by
  rcases m.answered_cases with
    ⟨next, hscript⟩ | ⟨line, next, hscript⟩ | ⟨depth, s, line, hdepth, hsubmit, hline, -, hanswer⟩ |
      ⟨hclears, hsubmits, hsame⟩
  · have hsubmits : ¬ m.Submits := not_submits (by rw [hscript]; rfl)
    have hclears : m.Clears ↔ m.session.clearHistory.2 = .ok () :=
      ⟨fun ⟨_, _, hok⟩ => hok, fun hok => ⟨next, hscript, hok⟩⟩
    have hanswer : m.answered.1 = m.session.clearHistory.1 := by
      rw [answered, hscript]
      rfl
    rw [hanswer, clearHistory_skipRecord, hclears]
    simp only [hsubmits, not_false_eq_true, true_and]
  · have hsubmits : ¬ m.Submits := not_submits (by rw [hscript]; rfl)
    have hclears : ¬ m.Clears := by
      refine not_clears fun _ hclear => ?_
      rw [hscript] at hclear
      cases hclear
    have hanswer : m.answered.1.skipRecord = m.session.skipRecord := by
      rw [answered, hscript]
      rfl
    simp only [hanswer, hclears, hsubmits, false_or, not_false_eq_true, true_and]
  · have hsubmits : m.Submits := ⟨depth, s, line, hdepth, hsubmit, hline⟩
    have hclears : ¬ m.Clears := by
      rintro ⟨_, hclear, _⟩
      rw [hclear] at hsubmit
      cases hsubmit
    rw [hanswer, submitWithin_skipRecord depth s hline]
    simp only [hclears, hsubmits, Bool.false_eq_true, not_true_eq_false, false_and, or_self]
  · rw [hsame.skipRecord]
    simp only [hclears, hsubmits, false_or, not_false_eq_true, true_and]

/-- The mark stands after a run if the history was emptied last in it, or if the mark stood before and no line was
executed. -/
theorem run_skipRecord (m : Moment) :
    m.run.1.skipRecord = true ↔
      EmptiedLast m.passes ∨ ((∀ m' ∈ m.passes, ¬ m'.Submits) ∧ m.session.skipRecord = true) := by
  let R : List Moment → Session → Session → Prop := fun ms s s' =>
    s'.skipRecord = true ↔ EmptiedLast ms ∨ ((∀ m ∈ ms, ¬ m.Submits) ∧ s.skipRecord = true)
  have hone : ∀ m' : Moment, m'.depth = m.depth → R [m'] m'.session m'.answered.1 := by
    intro m' _
    show m'.answered.1.skipRecord = true ↔ _
    rw [answered_skipRecord, emptiedLast_cons]
    simp [emptiedLast_nil]
  have hmore : ∀ {ms ms' : List Moment} {s s' s'' : Session}, R ms s s' → R ms' s' s'' → R (ms ++ ms') s s'' := by
    intro ms ms' s s' s'' h h'
    simp only [R] at h h' ⊢
    rw [h', h, emptiedLast_append, List.forall_mem_append]
    tauto
  exact run_related hone hmore m rfl

/-! ## The entries that are left -/

/-- Where no line is executed, an entry after a request was there before, if the history was not emptied, or the request
has recorded it. -/
theorem answered_entries_of_unsubmitted {m : Moment} (hsubmits : ¬ m.Submits) {e : String}
    (he : e ∈ m.answered.1.history.entries) :
    (e ∈ m.session.history.entries ∧ ¬ m.Clears) ∨ ∃ next, m.script = .record e next := by
  rcases m.answered_cases with
    ⟨next, hscript⟩ | ⟨line, next, hscript⟩ | ⟨depth, s, line, hdepth, hsubmit, hline, -, -⟩ | ⟨hclears, -, hsame⟩
  · have hnone : m.answered.1.history.entries = [] := by
      rw [answered, hscript]
      exact clearHistory_entries m.session
    rw [hnone] at he
    cases he
  · have hanswer : m.answered.1.history = (m.session.history.record line).state := by
      rw [answered, hscript]
      rfl
    rw [hanswer] at he
    rcases History.mem_record_entries he with he | rfl
    · refine Or.inl ⟨he, not_clears fun _ hclear => ?_⟩
      rw [hscript] at hclear
      cases hclear
    · exact Or.inr ⟨next, hscript⟩
  · exact absurd ⟨depth, s, line, hdepth, hsubmit, hline⟩ hsubmits
  · rw [hsame.entries] at he
    exact Or.inl ⟨he, hclears⟩

/-- Where no line is executed, an entry after a run was there before, if the history was not emptied, or was recorded by
a request. -/
theorem run_entries_of_unsubmitted (m : Moment) (hsubmits : ∀ m' ∈ m.passes, ¬ m'.Submits) :
    ∀ e ∈ m.run.1.history.entries,
      (e ∈ m.session.history.entries ∧ ∀ m' ∈ m.passes, ¬ m'.Clears) ∨
        ∃ m' ∈ m.passes, ∃ next, m'.script = .record e next := by
  let R : List Moment → Session → Session → Prop := fun ms s s' =>
    (∀ m ∈ ms, ¬ m.Submits) → ∀ e ∈ s'.history.entries,
      (e ∈ s.history.entries ∧ ∀ m ∈ ms, ¬ m.Clears) ∨ ∃ m ∈ ms, ∃ next, m.script = .record e next
  have hone : ∀ m' : Moment, m'.depth = m.depth → R [m'] m'.session m'.answered.1 := by
    intro m' _ hsubmits e he
    rcases answered_entries_of_unsubmitted (hsubmits m' List.mem_cons_self) he with ⟨he', hkept⟩ | ⟨next, hrecord⟩
    · exact Or.inl ⟨he', List.forall_mem_singleton.mpr hkept⟩
    · exact Or.inr ⟨m', List.mem_cons_self, next, hrecord⟩
  have hmore : ∀ {ms ms' : List Moment} {s s' s'' : Session}, R ms s s' → R ms' s' s'' → R (ms ++ ms') s s'' := by
    intro ms ms' s s' s'' h h' hsubmits e he
    rw [List.forall_mem_append] at hsubmits
    rcases h' hsubmits.2 e he with ⟨he', hkept'⟩ | ⟨m', hm', hrecord⟩
    · rcases h hsubmits.1 e he' with ⟨hbefore, hkept⟩ | ⟨m', hm', hrecord⟩
      · exact Or.inl ⟨hbefore, List.forall_mem_append.mpr ⟨hkept, hkept'⟩⟩
      · exact Or.inr ⟨m', List.mem_append_left _ hm', hrecord⟩
    · exact Or.inr ⟨m', List.mem_append_right _ hm', hrecord⟩
  exact run_related hone hmore m rfl hsubmits

/-! ## The line of the command -/

/-- What the history is after a line whose program has run: what the program has left, with the line recorded if the mark
does not stand. -/
theorem submitWithin_history {depth : Nat} {s begun : Session} {line : String} {program : Script}
    (hcall : s.call? line = some (program, begun)) :
    let ended := (Moment.run ⟨depth, program, begun⟩).1
    (submitWithin (depth + 1) s line).1.history =
      if ended.skipRecord then ended.history else (ended.history.record (strip line)).state := by
  obtain ⟨hline, rfl⟩ := call?_some hcall
  rcases execute_told (submitWithin depth) s hline with ⟨hnone, -⟩ | ⟨program', hcall', _, _, htold⟩
  · rw [hcall] at hnone
    cases hnone
  · rw [hcall] at hcall'
    cases hcall'
    rw [submitWithin_executed depth s hline, endLine_history, htold]
    rfl

/-- **The line of a command that empties the history.** If no line is executed after the program has emptied the history
for the last time, the line of the command is not recorded, and the history holds only what was recorded by request
since then. If a line is executed after each time, or the history is not emptied at all, the line is recorded. -/
theorem recorded_unless_emptied_last (depth : Nat) (s begun : Session) (line : String) (program : Script)
    (hcall : s.call? line = some (program, begun)) :
    let m : Moment := ⟨depth, program, begun⟩
    let left := m.run.1.history
    let final := (submitWithin (depth + 1) s line).1.history
    (∀ before cleared later, m.passes = before ++ cleared :: later → cleared.Clears → (∀ m' ∈ later, ¬ m'.Submits) →
        final = left ∧ ∀ e ∈ final.entries, ∃ m' ∈ later, ∃ next, m'.script = .record e next) ∧
      ((∀ before cleared later, m.passes = before ++ cleared :: later → cleared.Clears → ∃ m' ∈ later, m'.Submits) →
        final = (left.record (strip line)).state) := by
  intro m left final
  have hfinal : final = if m.run.1.skipRecord then left else (left.record (strip line)).state :=
    submitWithin_history hcall
  have hmark : m.run.1.skipRecord = true ↔ EmptiedLast m.passes := by
    have hbegun : m.session.skipRecord = false := congrArg Session.skipRecord (call?_some hcall).2
    rw [run_skipRecord, hbegun]
    simp
  constructor
  · intro before cleared later hpasses hclears hlater
    have hleft : final = left := by
      rw [hfinal, if_pos (hmark.mpr ⟨before, cleared, later, hpasses, hclears, hlater⟩)]
    refine ⟨hleft, fun e he => ?_⟩
    obtain ⟨hrest, hrun, -⟩ := run_of_passes hpasses
    obtain ⟨next, hscript, hok⟩ := hclears
    have hnone : ¬ cleared.Submits := not_submits (by rw [hscript]; rfl)
    rw [hleft] at he
    have hentries := run_entries_of_unsubmitted cleared (hrest ▸ List.forall_mem_cons.mpr ⟨hnone, hlater⟩) e (hrun ▸ he)
    rw [hrest] at hentries
    rcases hentries with ⟨-, hkept⟩ | ⟨m', hm', next', hrecord⟩
    · exact absurd ⟨next, hscript, hok⟩ (hkept cleared List.mem_cons_self)
    · rcases List.mem_cons.mp hm' with rfl | hm'
      · rw [hscript] at hrecord
        cases hrecord
      · exact ⟨m', hm', next', hrecord⟩
  · intro hsubmitted
    have hunmarked : ¬ m.run.1.skipRecord = true := by
      rw [hmark]
      rintro ⟨before, cleared, later, hpasses, hclears, hlater⟩
      obtain ⟨m', hm', hsubmits⟩ := hsubmitted before cleared later hpasses hclears
      exact hlater m' hm' hsubmits
    rw [hfinal, if_neg hunmarked]

namespace WipedHistory

/-- A console with one command. -/
def console (action : Script) : Session where
  completion := { registry := ⟨[⟨"wipe", { name := "wipe", action := fun _ => action, usage := .string "wipe" }, 0⟩]⟩ }
  history := { storage := {}, key := "lines", capacity := 3, entries := ["before"] }
  prompt := ">"

/-- Empties the history and moves through it then. -/
def wipes : Script := .clearHistory (.navigate (.string "up") fun _ => .done)

/-- Submits a line first. -/
def submitsAndWipes : Script := .submit "note" fun _ => wipes

/-- Submits a line afterwards. -/
def wipesAndSubmits : Script := .clearHistory (.submit "note" fun _ => .done)

end WipedHistory

open WipedHistory in
/-- A command that submits a line and empties the history then leaves no entry. -/
theorem recorded_unless_emptied_last_wiped :
    let s := console submitsAndWipes
    s.call? "wipe" = some (submitsAndWipes, s.beginLine "wipe") ∧
      (submit s "wipe").1.history = (Moment.run ⟨246, submitsAndWipes, s.beginLine "wipe"⟩).1.history ∧
      ∀ e, e ∉ (submit s "wipe").1.history.entries := by
  intro s
  have hcall : s.call? "wipe" = some (submitsAndWipes, s.beginLine "wipe") := by rfl
  let noted : Session := (submitWithin 246 (s.beginLine "wipe") "note").1
  let wiped : Session := noted.clearHistory.1
  let moved : Session := (wiped.navigate (.string "up")).1
  have hsubmit := (passes_of_goesOn (show Moment.answered ⟨246, submitsAndWipes, s.beginLine "wipe"⟩ =
    (noted, .goesOn wipes) by rfl)).1
  have hwipe := (passes_of_goesOn (show Moment.answered ⟨246, wipes, noted⟩ =
    (wiped, .goesOn (.navigate (.string "up") fun _ => .done)) by rfl)).1
  have hmove := (passes_of_goesOn (show Moment.answered ⟨246, .navigate (.string "up") fun _ => .done, wiped⟩ =
    (moved, .goesOn .done) by rfl)).1
  have hdone := (passes_of_ended (show Moment.answered ⟨246, .done, moved⟩ = (moved, .ended (.ok none)) by rfl)).1
  have hunsubmitted : ∀ m' ∈ [(⟨246, .navigate (.string "up") fun _ => .done, wiped⟩ : Moment), ⟨246, .done, moved⟩],
      ¬ m'.Submits ∧ ∀ e next, m'.script ≠ .record e next := by
    simp only [List.forall_mem_cons, List.not_mem_nil, false_implies, implies_true, and_true]
    exact ⟨⟨not_submits rfl, fun _ _ h => nomatch h⟩, not_submits rfl, fun _ _ h => nomatch h⟩
  obtain ⟨hleft, hentries⟩ := (recorded_unless_emptied_last 246 s (s.beginLine "wipe") "wipe" submitsAndWipes hcall).1
    [_] _ _ (by rw [hsubmit, hwipe, hmove, hdone]; rfl) ⟨_, rfl, by rfl⟩ fun m' hm' => (hunsubmitted m' hm').1
  refine ⟨hcall, hleft, fun e he => ?_⟩
  obtain ⟨m', hm', next, hrecord⟩ := hentries e he
  exact (hunsubmitted m' hm').2 e next hrecord

open WipedHistory in
/-- A command that empties the history and submits a line then has its own line recorded, behind that other one. -/
theorem emptied_then_recorded :
    let s := console wipesAndSubmits
    s.call? "wipe" = some (wipesAndSubmits, s.beginLine "wipe") ∧
      (∃ m ∈ Moment.passes ⟨246, wipesAndSubmits, s.beginLine "wipe"⟩, m.Clears) ∧
      (Moment.run ⟨246, wipesAndSubmits, s.beginLine "wipe"⟩).1.history.entries = ["note"] ∧
      (submit s "wipe").1.history.entries = ["note", "wipe"] := by
  intro s
  refine ⟨by rfl, ⟨⟨246, wipesAndSubmits, s.beginLine "wipe"⟩, ?_, _, rfl, by rfl⟩, by decide +kernel, by decide +kernel⟩
  rw [passes]
  exact List.mem_cons_self

end Session

end CommandConsole
