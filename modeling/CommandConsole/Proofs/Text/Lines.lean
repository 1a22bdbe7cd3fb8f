import CommandConsole.Text.Lines

/-!
# Texts fall back into their lines

A text is cut at its line ends, so what stands in front of the first one is the first line (`lineRuns_append`). Where line
ends are made alike before that, a text may be cut into fewer lines, but only empty ones are missing: whatever does not
come from empty lines comes from the same lines as before (`filterMap_lineRuns_unified`).
-/

namespace CommandConsole

/-- No line end is in some characters. -/
def Unbroken (cs : List Char) : Prop := ∀ c ∈ cs, isLineEnd c = false

instance (cs : List Char) : Decidable (Unbroken cs) := List.decidableBAll _ cs

theorem Unbroken.return_not_mem {cs : List Char} (h : Unbroken cs) : '\r' ∉ cs := fun hmem => by
  cases h '\r' hmem

theorem unbroken_cons {c : Char} {cs : List Char} : Unbroken (c :: cs) ↔ isLineEnd c = false ∧ Unbroken cs :=
  List.forall_mem_cons

theorem unbroken_append {cs ds : List Char} : Unbroken (cs ++ ds) ↔ Unbroken cs ∧ Unbroken ds := List.forall_mem_append

/-! ## Lines -/

theorem lineRuns_cons {c : Char} (hc : c ≠ '\r') (cs : List Char) :
    lineRuns (c :: cs) = if isLineEnd c = true then [] :: lineRuns cs else consHead c (lineRuns cs) :=
  lineRuns.eq_3 c cs fun _ hreturn _ => hc hreturn

/-- What stands in front of a line end is a line. -/
theorem lineRuns_append {line : List Char} (hline : Unbroken line) {e : Char} (he : isLineEnd e = true)
    (hplain : e ≠ '\r') (rest : List Char) : lineRuns (line ++ e :: rest) = line :: lineRuns rest := by
  induction line with
  | nil => rw [List.nil_append, lineRuns_cons hplain, if_pos he]
  | cons c line ih =>
    have hplainc : c ≠ '\r' := fun heq => hline.return_not_mem (heq ▸ List.mem_cons_self)
    rw [unbroken_cons] at hline
    rw [List.cons_append, lineRuns_cons hplainc, if_neg (by simp [hline.1]), ih hline.2, consHead]

/-- What has no line end is one line, unless it is empty. -/
theorem lineRuns_of_unbroken {line : List Char} (hline : Unbroken line) (hne : line ≠ []) : lineRuns line = [line] := by
  induction line with
  | nil => exact absurd rfl hne
  | cons c line ih =>
    have hplain : c ≠ '\r' := fun heq => hline.return_not_mem (heq ▸ List.mem_cons_self)
    rw [unbroken_cons] at hline
    rw [lineRuns_cons hplain, if_neg (by simp [hline.1])]
    by_cases hrest : line = []
    · rw [hrest]
      rfl
    · rw [ih hline.2 hrest, consHead]

/-! ## Line ends made alike -/

/-- In front of the first carriage return nothing changes. -/
theorem unifyNewlines_append {cs : List Char} (h : '\r' ∉ cs) (rest : List Char) :
    unifyNewlines (cs ++ rest) = cs ++ unifyNewlines rest := by
  induction cs with
  | nil => rfl
  | cons c cs ih =>
    rw [List.mem_cons, not_or] at h
    rw [List.cons_append, unifyNewlines.eq_3 c _ fun _ hreturn _ => h.1 hreturn.symm, if_neg (Ne.symm h.1), ih h.2,
      List.cons_append]

/-- Without carriage returns, the line ends are as they should be. -/
theorem unifyNewlines_eq_self {cs : List Char} (h : '\r' ∉ cs) : unifyNewlines cs = cs := by
  simpa [unifyNewlines] using unifyNewlines_append h []

variable {α : Type} {g : List Char → Option α}

/-- A line end is still one when line ends are made alike, and what follows it has the same lines, but for empty ones. -/
theorem unifyNewlines_lineEnd (hempty : g [] = none) {e : Char} (he : isLineEnd e = true) (rest : List Char) :
    ∃ e' rest', unifyNewlines (e :: rest) = e' :: rest' ∧ isLineEnd e' = true ∧ e' ≠ '\r' ∧
      (lineRuns rest').filterMap g = (lineRuns (unifyNewlines rest)).filterMap g := by
  by_cases hreturn : e = '\r'
  · subst hreturn
    by_cases hfeed : ∃ rest', rest = '\n' :: rest'
    · obtain ⟨rest', rfl⟩ := hfeed
      refine ⟨'\n', unifyNewlines rest', rfl, rfl, by decide, ?_⟩
      have hnext : lineRuns (unifyNewlines ('\n' :: rest')) = [] :: lineRuns (unifyNewlines rest') := rfl
      rw [hnext, List.filterMap_cons_none hempty]
    · have halone := unifyNewlines.eq_3 '\r' rest fun rest' _ hrest => hfeed ⟨rest', hrest⟩
      exact ⟨'\n', unifyNewlines rest, halone, rfl, by decide, rfl⟩
  · refine ⟨e, unifyNewlines rest, ?_, he, hreturn, rfl⟩
    exact @unifyNewlines_append [e] (by simpa using Ne.symm hreturn) rest

/-- What comes of a text whose line ends are made alike comes of its first line, and of the rest. -/
theorem filterMap_lineRuns_unified (hempty : g [] = none) {line : List Char} (hline : Unbroken line) {e : Char}
    (he : isLineEnd e = true) (rest : List Char) :
    (lineRuns (unifyNewlines (line ++ e :: rest))).filterMap g =
      (g line).toList ++ (lineRuns (unifyNewlines rest)).filterMap g := by
  obtain ⟨e', rest', hunified, he', hplain, hlines⟩ := unifyNewlines_lineEnd hempty he rest
  rw [unifyNewlines_append hline.return_not_mem, hunified, lineRuns_append hline he' hplain, List.filterMap_cons, hlines]
  cases g line <;> rfl

/-- The same for a text of one line. -/
theorem filterMap_lineRuns_last (hempty : g [] = none) {line : List Char} (hline : Unbroken line) :
    (lineRuns (unifyNewlines line)).filterMap g = (g line).toList := by
  rw [unifyNewlines_eq_self hline.return_not_mem]
  by_cases hne : line = []
  · rw [hne, hempty]
    rfl
  · rw [lineRuns_of_unbroken hline hne, List.filterMap_cons]
    cases g line <;> rfl

end CommandConsole
