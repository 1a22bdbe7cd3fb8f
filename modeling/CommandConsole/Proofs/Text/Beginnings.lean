import Mathlib.Data.List.TakeWhile
import CommandConsole.Text.LowerCase

/-!
# Lower case of the beginning of a text

The lower case of the beginning of a text is the beginning of its lower case, but for one cut: behind a capital sigma
that is the last letter of a word up to the cut, and is not in the whole text (`CutsSigma`). So it is because a character
is lower-cased on its own unless it is a sigma, and a sigma only looks at the next letter (`lowerChar_append`).
-/

namespace CommandConsole

/-- A text that follows the reversed text `before` is cut behind a capital sigma: this is the last character of `front`
that casing does not ignore, a cased letter comes before it, and a cased letter is the next one in `back`. -/
def CutsSigma (before front back : List Char) : Prop :=
  ∃ inside ignored, front = inside ++ 'Σ' :: ignored ∧ cased (inside.reverse ++ before) = true ∧
    (∀ c ∈ ignored, caseIgnorableChars.has c = true) ∧ cased back = true

variable {before front back : List Char}

/-! ## The next letter -/

/-- Behind characters that casing ignores the next letter is that of the text behind them. -/
theorem cased_append_of_ignored (h : ∀ c ∈ front, caseIgnorableChars.has c = true) (back : List Char) :
    cased (front ++ back) = cased back := by
  rw [cased, List.dropWhile_append_of_pos h, ← cased]

/-- In these characters by themselves there is no letter. -/
theorem cased_of_ignored (h : ∀ c ∈ front, caseIgnorableChars.has c = true) : cased front = false := by
  rw [cased, List.dropWhile_eq_nil_iff.mpr h]

/-- Otherwise the next letter is there already, and it does not matter what follows. -/
theorem cased_append_of_not_ignored (h : ¬ ∀ c ∈ front, caseIgnorableChars.has c = true) (back : List Char) :
    cased (front ++ back) = cased front := by
  cases hdrop : front.dropWhile caseIgnorableChars.has with
  | nil => exact absurd (List.dropWhile_eq_nil_iff.mp hdrop) h
  | cons c rest => simp [cased, List.dropWhile_append, hdrop]

/-! ## One character -/

/-- What follows behind a cut matters to a sigma only that ends a word before the cut. -/
theorem lowerChar_append {c : Char}
    (h : ¬ (c = 'Σ' ∧ cased before = true ∧ (∀ d ∈ front, caseIgnorableChars.has d = true) ∧ cased back = true)) :
    lowerChar before c (front ++ back) = lowerChar before c front := by
  by_cases hignored : ∀ d ∈ front, caseIgnorableChars.has d = true
  · rw [lowerChar, lowerChar, cased_append_of_ignored hignored, cased_of_ignored hignored]
    by_cases hc : c = 'Σ'
    · cases hbefore : cased before with
      | false => simp
      | true =>
        have hback : cased back = false := by
          rw [← Bool.not_eq_true]
          intro hcased
          exact h ⟨hc, hbefore, hignored, hcased⟩
        rw [hback]
    · simp [hc]
  · rw [lowerChar, lowerChar, cased_append_of_not_ignored hignored]

/-- The sigma before the cut has its final form, and the one in the whole text has not. -/
theorem lowerChar_of_cut (hbefore : cased before = true) (hignored : ∀ d ∈ front, caseIgnorableChars.has d = true)
    (hback : cased back = true) :
    lowerChar before 'Σ' front = ['ς'] ∧ lowerChar before 'Σ' (front ++ back) = ['σ'] := by
  have hsigma : lowerMap.apply 'Σ' = ['σ'] := by decide +kernel
  constructor
  · simp [lowerChar, hbefore, cased_of_ignored hignored]
  · simp [lowerChar, hbefore, cased_append_of_ignored hignored, hback, hsigma]

/-! ## Texts -/

/-- A sigma that is cut off from the next letter is the first character, or one behind it. -/
theorem cutsSigma_cons {c : Char} :
    CutsSigma before (c :: front) back ↔
      (c = 'Σ' ∧ cased before = true ∧ (∀ d ∈ front, caseIgnorableChars.has d = true) ∧ cased back = true) ∨
        CutsSigma (c :: before) front back := by
  constructor
  · rintro ⟨inside, ignored, hsplit, hbefore, hignored, hback⟩
    cases inside with
    | nil =>
      cases hsplit
      exact Or.inl ⟨rfl, hbefore, hignored, hback⟩
    | cons d inside =>
      cases hsplit
      exact Or.inr ⟨inside, ignored, rfl, by simpa using hbefore, hignored, hback⟩
  · rintro (⟨rfl, hbefore, hignored, hback⟩ | ⟨inside, ignored, rfl, hbefore, hignored, hback⟩)
    · exact ⟨[], front, rfl, hbefore, hignored, hback⟩
    · exact ⟨c :: inside, ignored, rfl, by simpa using hbefore, hignored, hback⟩

/-- The lower case of a beginning begins the lower case of the whole exactly if no sigma is cut off from the next letter.
By induction on the beginning: up to that sigma both are the same, and there they differ. -/
theorem lowerAfter_prefix_iff (before front back : List Char) :
    lowerAfter before front <+: lowerAfter before (front ++ back) ↔ ¬ CutsSigma before front back := by
  induction front generalizing before with
  | nil =>
    refine iff_of_true (List.nil_prefix) ?_
    rintro ⟨inside, ignored, hsplit, -⟩
    simp at hsplit
  | cons c front ih =>
    rw [List.cons_append, lowerAfter, lowerAfter, cutsSigma_cons]
    by_cases hcut : c = 'Σ' ∧ cased before = true ∧ (∀ d ∈ front, caseIgnorableChars.has d = true) ∧ cased back = true
    · obtain ⟨rfl, hbefore, hignored, hback⟩ := hcut
      obtain ⟨hfinal, hinner⟩ := lowerChar_of_cut hbefore hignored hback
      rw [hfinal, hinner]
      refine iff_of_false ?_ (fun h => h (Or.inl ⟨rfl, hbefore, hignored, hback⟩))
      simp
    · rw [lowerChar_append hcut, List.prefix_append_right_inj, ih]
      simp [hcut]

/-- A text is cut behind a sigma that ends a word there, and only there. -/
def SplitsSigma (typed rest : String) : Prop := CutsSigma [] typed.toList rest.toList

/-- The lower case of the beginning of a text begins its lower case unless the text is split behind such a sigma. -/
theorem lowerCase_prefix_iff (typed rest : String) :
    (lowerCase typed).toList <+: (lowerCase (typed ++ rest)).toList ↔ ¬ SplitsSigma typed rest := by
  rw [lowerCase, lowerCase, String.toList_ofList, String.toList_ofList, String.toList_append, SplitsSigma]
  exact lowerAfter_prefix_iff [] typed.toList rest.toList

end CommandConsole
