import CommandConsole.Proofs.Text.Words

/-!
# Lower case of lower case, and of words

A character that is the result of lower-casing is its own lower case in any context (`lowerChar_apply_fixed`), since no
shift takes further what another one leads to (`lowerMap_settled`); so lower-casing twice is lower-casing once
(`lowerCase_lowerCase`), whatever sigmas there are. Blanks are their own lower case too, and nothing else becomes a
blank, so a text is one word exactly if it is in lower case (`isWord_lowerCase`).
-/

namespace CommandConsole

/-! ## Characters in lower case -/

/-- The tables of the lower case lead no further than once. -/
theorem lowerMap_settled : lowerMap.Settled where
  texts := by decide +kernel
  shifts := by decide +kernel
  own := by decide +kernel
  null := by decide +kernel

/-- A character in lower case stays as it is in any context: it is no capital sigma. -/
theorem lowerChar_fixed {d : Char} (hd : lowerMap.apply d = [d]) (before after : List Char) :
    lowerChar before d after = [d] := by
  have hsigma : d ≠ 'Σ' := by
    rintro rfl
    exact absurd hd (by decide +kernel)
  rw [lowerChar, decide_eq_false hsigma, Bool.false_and, Bool.false_and]
  exact hd

/-- What lower-casing a character in a context gives is in lower case. -/
theorem lowerChar_apply_fixed (before : List Char) (c : Char) (after : List Char) :
    ∀ d ∈ lowerChar before c after, lowerMap.apply d = [d] := by
  unfold lowerChar
  split
  · exact List.forall_mem_singleton.mpr (by rfl)
  · exact lowerMap_settled.apply_fixed c

/-! ## Texts -/

/-- A character of a text in lower case comes from a character of the text, in its context there. -/
theorem mem_lowerAfter {d : Char} {cs before : List Char} :
    d ∈ lowerAfter before cs ↔
      ∃ pre c post, cs = pre ++ c :: post ∧ d ∈ lowerChar (pre.reverse ++ before) c post := by
  induction cs generalizing before with
  | nil => simp [lowerAfter]
  | cons c cs ih =>
    rw [lowerAfter, List.mem_append, ih]
    constructor
    · rintro (hd | ⟨pre, e, post, rfl, hd⟩)
      · exact ⟨[], c, cs, rfl, hd⟩
      · exact ⟨c :: pre, e, post, rfl, by simpa using hd⟩
    · rintro ⟨pre, e, post, hcs, hd⟩
      cases pre with
      | nil =>
        cases hcs
        exact Or.inl hd
      | cons p pre =>
        cases hcs
        exact Or.inr ⟨pre, e, post, rfl, by simpa using hd⟩

/-- A text in lower case stays as it is. -/
theorem lowerAfter_fixed {cs : List Char} (h : ∀ c ∈ cs, lowerMap.apply c = [c]) (before : List Char) :
    lowerAfter before cs = cs := by
  induction cs generalizing before with
  | nil => rfl
  | cons c cs ih =>
    rw [List.forall_mem_cons] at h
    rw [lowerAfter, lowerChar_fixed h.1, ih h.2]
    rfl

/-- Lower-casing twice is lower-casing once. -/
@[simp] theorem lowerCase_lowerCase (s : String) : lowerCase (lowerCase s) = lowerCase s := by
  rw [lowerCase, lowerCase, String.toList_ofList]
  congr 1
  apply lowerAfter_fixed
  intro d hd
  obtain ⟨pre, c, post, -, hd⟩ := mem_lowerAfter.mp hd
  exact lowerChar_apply_fixed _ c post d hd

/-! ## Words -/

/-- The shifts of the lower case pass over the blanks. -/
theorem lowerMap_shifts_pass_blanks :
    ∀ s ∈ lowerMap.shifts, ∀ r ∈ blankChars, s.last < r.1 ∨ r.2 < s.first := by
  decide +kernel

/-- No blank has a lower case of more than one character. -/
theorem lowerMap_expansions_notBlank :
    ∀ e ∈ lowerMap.expansions, ¬ (blankChars.any fun (first, last) => first ≤ e.1 && e.1 ≤ last) = true := by
  decide +kernel

/-- A blank is its own lower case. -/
theorem lowerChar_blank {c : Char} (hc : isBlank c = true) (before after : List Char) :
    lowerChar before c after = [c] := by
  apply lowerChar_fixed
  have hrange := hc
  rw [isBlank, CodePoints.has, List.any_eq_true] at hrange
  obtain ⟨r, hr, hin⟩ := hrange
  simp only [Bool.and_eq_true, decide_eq_true_eq] at hin
  apply CharMap.apply_uncovered
  · intro e he hown
    rw [isBlank, CodePoints.has, ← hown] at hc
    exact absurd hc (lowerMap_expansions_notBlank e he)
  · intro s hs
    have hpass := lowerMap_shifts_pass_blanks s hs r hr
    rw [Shift.image?, if_neg]
    omega

/-- A text that is one word: it is not empty and holds no blank. -/
structure IsWord (s : String) : Prop where
  filled : s ≠ ""
  unbroken : ∀ c ∈ s.toList, isBlank c = false

/-- A word has a character. -/
theorem IsWord.toList_ne_nil {s : String} (h : IsWord s) : s.toList ≠ [] :=
  fun hnil => h.filled (String.toList_eq_nil_iff.mp hnil)

/-- A text is a word exactly if it is one in lower case. -/
theorem isWord_lowerCase {s : String} : IsWord (lowerCase s) ↔ IsWord s := by
  have hmem : ∀ d, d ∈ (lowerCase s).toList ↔
      ∃ pre c post, s.toList = pre ++ c :: post ∧ d ∈ lowerChar (pre.reverse ++ []) c post := by
    intro d
    rw [lowerCase, String.toList_ofList, mem_lowerAfter]
  have hempty : lowerCase "" = "" := by rfl
  constructor
  · intro h
    refine ⟨fun hs => h.filled (hs ▸ hempty), fun c hc => ?_⟩
    by_contra hblank
    rw [Bool.not_eq_false] at hblank
    obtain ⟨pre, post, hsplit⟩ := List.append_of_mem hc
    have hkept : c ∈ (lowerCase s).toList := (hmem c).mpr ⟨pre, c, post, hsplit, by simp [lowerChar_blank hblank]⟩
    rw [h.unbroken c hkept] at hblank
    cases hblank
  · intro h
    constructor
    · intro hlower
      obtain ⟨c, cs, hs⟩ := List.exists_cons_of_ne_nil h.toList_ne_nil
      obtain ⟨d, hd⟩ := List.exists_mem_of_ne_nil _
        (lowerChar_notBlank ([].reverse ++ []) cs (h.unbroken c (hs ▸ List.mem_cons_self))).1
      have hkept : d ∈ (lowerCase s).toList := (hmem d).mpr ⟨[], c, cs, hs, hd⟩
      rw [hlower] at hkept
      cases hkept
    · intro d hd
      obtain ⟨pre, c, post, hs, hd⟩ := (hmem d).mp hd
      have hc : c ∈ s.toList := by simp [hs]
      exact (lowerChar_notBlank _ post (h.unbroken c hc)).2 d hd

end CommandConsole
