import Mathlib.Data.List.DropRight
import CommandConsole.Proofs.Text.LowerCase

/-!
# Words with blanks between them

`Spaced` says what it is for a text to consist of words, with any blanks between them and around them; the words of a
text are those that it consists of so (`words_eq_iff`). Blanks at the ends do not count (`words_strip`).
-/

namespace CommandConsole

/-- A text consists of words, with blanks between them and around them. -/
inductive Spaced : List String → String → Prop where
  | blank {gap : String} (hgap : allBlank gap = true) : Spaced [] gap
  | word {lead w rest : String} {ws : List String} (hlead : allBlank lead = true) (hw : IsWord w)
      (hapart : ∀ c ∈ rest.toList.head?, isBlank c = true) (hrest : Spaced ws rest) : Spaced (w :: ws) (lead ++ w ++ rest)

/-! ## Runs -/

/-- Blanks in front do not count. -/
theorem wordRuns_blanks_append {gap : List Char} (hgap : ∀ c ∈ gap, isBlank c = true) (cs : List Char) :
    wordRuns (gap ++ cs) = wordRuns cs := by
  induction gap with
  | nil => rfl
  | cons b gap ih =>
    rw [List.forall_mem_cons] at hgap
    rw [List.cons_append, wordRuns.eq_def]
    simp only [hgap.1, if_true, ih hgap.2]

/-- A run of other characters in front of a blank, or at the end, is the first one. -/
theorem wordRuns_run_append {run : List Char} (hne : run ≠ []) (hrun : ∀ c ∈ run, isBlank c = false) {rest : List Char}
    (hapart : ∀ c ∈ rest.head?, isBlank c = true) : wordRuns (run ++ rest) = run :: wordRuns rest := by
  induction run with
  | nil => exact absurd rfl hne
  | cons c run ih =>
    rw [List.forall_mem_cons] at hrun
    rw [List.cons_append, wordRuns.eq_def]
    simp only [hrun.1, Bool.false_eq_true, if_false]
    cases run with
    | nil =>
      cases rest with
      | nil => rfl
      | cons b rest =>
        have hb : isBlank b = true := hapart b rfl
        simp only [List.nil_append, hb, if_true]
    | cons d run =>
      have hd : isBlank d = false := hrun.2 d List.mem_cons_self
      rw [ih (List.cons_ne_nil d run) hrun.2]
      simp only [List.cons_append, hd, Bool.false_eq_true, if_false, consHead]

/-- Blanks at the end do not count. -/
theorem wordRuns_append_blanks (cs : List Char) {gap : List Char} (hgap : ∀ c ∈ gap, isBlank c = true) :
    wordRuns (cs ++ gap) = wordRuns cs := by
  induction cs with
  | nil => simpa using wordRuns_blanks_append hgap []
  | cons c cs ih =>
    rw [List.cons_append, wordRuns.eq_def, wordRuns.eq_def (c :: cs)]
    simp only
    rw [ih]
    cases cs with
    | nil =>
      cases gap with
      | nil => rfl
      | cons b gap => simp [hgap b List.mem_cons_self, wordRuns]
    | cons d ds => rfl

/-! ## Words -/

/-- A text that consists of words has these words. -/
theorem Spaced.words_eq {ws : List String} {s : String} (h : Spaced ws s) : words s = ws := by
  induction h with
  | blank hgap =>
    have hnone := wordRuns_blanks_append (List.all_eq_true.mp hgap) []
    rw [List.append_nil] at hnone
    rw [words, hnone]
    rfl
  | @word lead w rest ws hlead hw hapart hrest ih =>
    rw [words, String.toList_append, String.toList_append, List.append_assoc,
      wordRuns_blanks_append (List.all_eq_true.mp hlead), wordRuns_run_append hw.toList_ne_nil hw.unbroken hapart,
      List.map_cons, String.ofList_toList, ← words, ih]

/-- Characters that are not all blanks have a first run of other ones. -/
theorem exists_run {cs : List Char} (h : ¬ ∀ c ∈ cs, isBlank c = true) :
    ∃ lead run rest, cs = lead ++ run ++ rest ∧ (∀ c ∈ lead, isBlank c = true) ∧ run ≠ [] ∧
      (∀ c ∈ run, isBlank c = false) ∧ ∀ c ∈ rest.head?, isBlank c = true := by
  have hne : cs.dropWhile isBlank ≠ [] := fun hnil => h (List.dropWhile_eq_nil_iff.mp hnil)
  obtain ⟨c, body, hbody⟩ := List.exists_cons_of_ne_nil hne
  have hc : isBlank c = false := by
    have hhead := List.head_dropWhile_not isBlank hne
    simpa only [hbody, List.head_cons] using hhead
  refine ⟨cs.takeWhile isBlank, (c :: body).takeWhile (!isBlank ·), (c :: body).dropWhile (!isBlank ·), ?_,
    fun d hd => List.mem_takeWhile_imp hd, ?_, fun d hd => ?_, fun d hd => ?_⟩
  · rw [List.append_assoc, List.takeWhile_append_dropWhile, ← hbody, List.takeWhile_append_dropWhile]
  · simp [hc]
  · simpa using List.mem_takeWhile_imp hd
  · have hkept := List.head?_dropWhile_not (!isBlank ·) (c :: body)
    rw [Option.mem_def.mp hd] at hkept
    simpa using hkept

/-- Every text consists of words. -/
theorem exists_spaced (cs : List Char) : ∃ ws, Spaced ws (String.ofList cs) := by
  -- on the length: what is left behind the first run is shorter
  induction hlength : cs.length using Nat.strong_induction_on generalizing cs with
  | _ n ih =>
    by_cases hblank : ∀ c ∈ cs, isBlank c = true
    · exact ⟨[], .blank (by simpa [allBlank] using hblank)⟩
    · obtain ⟨lead, run, rest, rfl, hlead, hne, hrun, hapart⟩ := exists_run hblank
      have hless : rest.length < n := by
        have hpos := List.length_pos_iff.mpr hne
        rw [List.length_append, List.length_append] at hlength
        omega
      obtain ⟨ws, hrest⟩ := ih rest.length hless rest rfl
      have hword : IsWord (String.ofList run) :=
        ⟨fun hempty => hne (by simpa using congrArg String.toList hempty), by rwa [String.toList_ofList]⟩
      refine ⟨String.ofList run :: ws, ?_⟩
      rw [String.ofList_append, String.ofList_append]
      exact .word (by simpa [allBlank] using hlead) hword (by rwa [String.toList_ofList]) hrest

/-- The words of a text are those that it consists of. -/
theorem words_eq_iff {s : String} {ws : List String} : words s = ws ↔ Spaced ws s := by
  constructor
  · intro h
    obtain ⟨ws', hspaced⟩ := exists_spaced s.toList
    rw [String.ofList_toList] at hspaced
    rw [← h, hspaced.words_eq]
    exact hspaced
  · exact Spaced.words_eq

/-- A text has no words exactly if it is blank. -/
theorem words_eq_nil {s : String} : words s = [] ↔ allBlank s = true := by
  rw [words_eq_iff]
  constructor
  · rintro ⟨hgap⟩
    exact hgap
  · exact .blank

/-- Blanks behind a text do not add words. -/
theorem words_append_blanks (s : String) {gap : String} (hgap : allBlank gap = true) : words (s ++ gap) = words s := by
  rw [words, words, String.toList_append, wordRuns_append_blanks _ (List.all_eq_true.mp hgap)]

/-- Stripping a text leaves its words. -/
theorem words_strip (s : String) : words (strip s) = words s := by
  have hends : s.toList =
      s.toList.takeWhile isBlank ++ (stripBlanks s.toList ++ (s.toList.dropWhile isBlank).rtakeWhile isBlank) := by
    show _ = _ ++ ((s.toList.dropWhile isBlank).rdropWhile isBlank ++ _)
    rw [List.rdropWhile_append_rtakeWhile, List.takeWhile_append_dropWhile]
  rw [words, words, hends, wordRuns_blanks_append (fun _ hc => List.mem_takeWhile_imp hc),
    wordRuns_append_blanks _ (fun _ hc => List.mem_rtakeWhile_imp hc), strip, String.toList_ofList]

end CommandConsole
