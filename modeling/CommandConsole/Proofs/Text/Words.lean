import Mathlib.Data.List.TakeWhile
import CommandConsole.Proofs.Text.CharMap
import CommandConsole.Text.Blank
import CommandConsole.Text.LowerCase

/-!
# Words, blanks and lower case

A word is not empty and holds no blank (`mem_wordRuns`), so it is not blank (`allBlank_of_mem_words`). Stripping leaves
nothing of a blank text and something of any other (`strip_isEmpty`). Lower-casing turns no character into a blank and
drops none (`lowerChar_notBlank`), so a text that is not blank is not blank in lower case either.
-/

namespace CommandConsole

/-! ## Words -/

/-- The pieces of a list with a character put in front of the first one. -/
theorem mem_consHead {c : Char} {pieces : List (List Char)} {w : List Char} (h : w ∈ consHead c pieces) :
    w = [c] ∨ w ∈ pieces ∨ ∃ piece ∈ pieces, w = c :: piece := by
  cases pieces with
  | nil => exact Or.inl (List.mem_singleton.mp h)
  | cons piece rest =>
    rcases List.mem_cons.mp h with rfl | h
    · exact Or.inr (Or.inr ⟨piece, List.mem_cons_self, rfl⟩)
    · exact Or.inr (Or.inl (List.mem_cons_of_mem _ h))

/-- A word is not empty and holds no blank. -/
theorem mem_wordRuns (cs : List Char) : ∀ w ∈ wordRuns cs, w ≠ [] ∧ ∀ c ∈ w, isBlank c = false := by
  induction cs with
  | nil =>
    intro w hw
    cases hw
  | cons c cs ih =>
    intro w hw
    rw [wordRuns.eq_def] at hw
    by_cases hc : isBlank c = true
    · simp only [hc, if_true] at hw
      exact ih w hw
    · have hc' : isBlank c = false := by simpa using hc
      have hsingle : ([c] : List Char) ≠ [] ∧ ∀ d ∈ [c], isBlank d = false := by simp [hc']
      cases cs with
      | nil =>
        simp only [hc', Bool.false_eq_true, if_false, List.mem_singleton] at hw
        exact hw ▸ hsingle
      | cons d ds =>
        simp only [hc', Bool.false_eq_true, if_false] at hw
        split at hw
        · rcases List.mem_cons.mp hw with rfl | hw
          · exact hsingle
          · exact ih w hw
        · rcases mem_consHead hw with rfl | hw | ⟨piece, hp, rfl⟩
          · exact hsingle
          · exact ih w hw
          · refine ⟨List.cons_ne_nil _ _, fun e he => ?_⟩
            rcases List.mem_cons.mp he with rfl | he
            · exact hc'
            · exact (ih piece hp).2 e he

/-- A word is not blank. -/
theorem allBlank_of_mem_words {line w : String} (h : w ∈ words line) : allBlank w = false := by
  obtain ⟨run, hrun, rfl⟩ := List.mem_map.mp h
  obtain ⟨hne, hnot⟩ := mem_wordRuns _ run hrun
  obtain ⟨c, hc⟩ := List.exists_mem_of_ne_nil run hne
  rw [allBlank, String.toList_ofList, List.all_eq_false]
  exact ⟨c, hc, by simp [hnot c hc]⟩

/-! ## Stripping -/

/-- Nothing is left of the characters exactly if they are blanks. -/
theorem stripBlanks_eq_nil {cs : List Char} : stripBlanks cs = [] ↔ ∀ c ∈ cs, isBlank c = true := by
  rw [stripBlanks, List.reverse_eq_nil_iff, List.dropWhile_eq_nil_iff]
  constructor
  · intro h c hc
    by_cases hall : cs.dropWhile isBlank = []
    · exact List.dropWhile_eq_nil_iff.mp hall c hc
    · have hhead := List.head_dropWhile_not isBlank hall
      have hmem := h _ (List.mem_reverse.mpr (List.head_mem hall))
      exact absurd hmem (by simp [hhead])
  · intro h c hc
    exact h c ((List.dropWhile_suffix _).subset (List.mem_reverse.mp hc))

/-- What does not begin and does not end with a blank is left of a text with blanks at its ends. -/
theorem stripBlanks_padded {gap core gap' : List Char} (hgap : ∀ c ∈ gap, isBlank c = true)
    (hgap' : ∀ c ∈ gap', isBlank c = true) (hfirst : ∀ c ∈ core.head?, isBlank c = false)
    (hlast : ∀ c ∈ core.getLast?, isBlank c = false) : stripBlanks (gap ++ core ++ gap') = core := by
  have hkept : ∀ {cs : List Char}, (∀ c ∈ cs.head?, isBlank c = false) → cs.dropWhile isBlank = cs := by
    intro cs h
    cases cs with
    | nil => rfl
    | cons c cs => exact List.dropWhile_cons_of_neg (by simp [h c rfl])
  cases core with
  | nil =>
    rw [List.append_nil, stripBlanks_eq_nil]
    exact fun c hc => (List.mem_append.mp hc).elim (hgap c) (hgap' c)
  | cons c core =>
    have hfront : ((c :: core) ++ gap').dropWhile isBlank = (c :: core) ++ gap' := hkept hfirst
    rw [← List.head?_reverse] at hlast
    rw [stripBlanks, List.append_assoc, List.dropWhile_append_of_pos hgap, hfront, List.reverse_append,
      List.dropWhile_append_of_pos fun d hd => hgap' d (List.mem_reverse.mp hd), hkept hlast, List.reverse_reverse]

/-- What begins behind some blanks still begins there when the blanks at both ends are taken off. -/
theorem stripBlanks_begins {gap : List Char} (hgap : ∀ c ∈ gap, isBlank c = true) {c : Char} (hc : isBlank c = false)
    (cs : List Char) : ∃ rest, stripBlanks (gap ++ c :: cs) = c :: rest := by
  have hfront : (c :: cs).dropWhile isBlank = c :: cs := List.dropWhile_cons_of_neg (by simp [hc])
  have hprefix : stripBlanks (gap ++ c :: cs) <+: c :: cs := by
    rw [stripBlanks, List.dropWhile_append_of_pos hgap, hfront, ← List.reverse_suffix, List.reverse_reverse]
    exact List.dropWhile_suffix _
  have hfilled : stripBlanks (gap ++ c :: cs) ≠ [] := by
    rw [Ne, stripBlanks_eq_nil]
    intro hblank
    have hnot := hblank c (by simp)
    rw [hc] at hnot
    cases hnot
  obtain ⟨d, rest, hrest⟩ := List.exists_cons_of_ne_nil hfilled
  rw [hrest] at hprefix
  exact ⟨rest, by rw [hrest, (List.cons_prefix_cons.mp hprefix).1]⟩

/-- What is no blank is not stripped. -/
theorem mem_stripBlanks {c : Char} {cs : List Char} (hc : c ∈ cs) (hblank : isBlank c = false) :
    c ∈ stripBlanks cs := by
  have hkept : ∀ {cs : List Char}, c ∈ cs → c ∈ cs.dropWhile isBlank := by
    intro cs hc
    rw [← List.takeWhile_append_dropWhile (p := isBlank) (l := cs), List.mem_append] at hc
    refine hc.resolve_left fun hfront => ?_
    rw [List.mem_takeWhile_imp hfront] at hblank
    cases hblank
  rw [stripBlanks, List.mem_reverse]
  exact hkept (List.mem_reverse.mpr (hkept hc))

/-- A text without blanks is left as it is. -/
theorem stripBlanks_eq_self {cs : List Char} (h : ∀ c ∈ cs, isBlank c = false) : stripBlanks cs = cs := by
  have hpadded := @stripBlanks_padded [] cs [] (by simp) (by simp) (fun c hc => h c (List.mem_of_mem_head? hc))
    fun c hc => h c (List.mem_of_mem_getLast? hc)
  simpa using hpadded

/-- Stripping leaves nothing exactly of a blank text. -/
theorem strip_isEmpty (s : String) : (strip s).isEmpty = allBlank s := by
  rw [Bool.eq_iff_iff, String.isEmpty_iff, allBlank, List.all_eq_true, ← stripBlanks_eq_nil, strip]
  constructor
  · intro h
    simpa using congrArg String.toList h
  · intro h
    rw [h]

/-! ## Lower case -/

/-- No shift of the lower case leads to a blank. -/
theorem lowerMap_shifts_apart :
    ∀ s ∈ lowerMap.shifts, ∀ r ∈ blankChars, s.target + (s.last - s.first) < r.1 ∨ r.2 < s.target := by
  decide +kernel

/-- A code point that lies in none of the ranges of the blanks is not the code point of a blank. -/
theorem isBlank_ofNat {n : Nat} (h : ∀ r ∈ blankChars, n < r.1 ∨ r.2 < n) : isBlank (Char.ofNat n) = false := by
  have hchar : ∀ c : Char, c.toNat = n → isBlank c = false := by
    intro c hc
    rw [isBlank, CodePoints.has, List.any_eq_false]
    intro r hr
    have hn := h r hr
    simp only [Bool.and_eq_true, decide_eq_true_eq, not_and, Nat.not_le]
    omega
  by_cases hvalid : n.isValidChar
  · apply hchar
    rw [Char.ofNat, dif_pos hvalid]
    rfl
  · rw [Char.ofNat, dif_neg hvalid]
    rfl

/-- The lower case of a character that is not a blank is one or more characters that are no blanks. -/
theorem lowerMap_apply_notBlank {c : Char} (hc : isBlank c = false) :
    lowerMap.apply c ≠ [] ∧ ∀ d ∈ lowerMap.apply c, isBlank d = false := by
  unfold CharMap.apply
  split
  · rename_i text hlookup
    -- the only character with a lower case of its own is the capital i with a dot
    rw [show lowerMap.expansions = [(0x130, [0x69, 0x307])] from rfl, List.lookup_cons] at hlookup
    split at hlookup
    · cases hlookup
      exact ⟨List.cons_ne_nil _ _, List.forall_mem_cons.mpr ⟨rfl, List.forall_mem_singleton.mpr rfl⟩⟩
    · cases hlookup
  · split
    · rename_i n hshift
      obtain ⟨s, hs, himage⟩ := List.exists_of_findSome?_eq_some hshift
      obtain ⟨hlow, hhigh⟩ := image?_bounds himage
      refine ⟨List.cons_ne_nil _ _, fun d hd => ?_⟩
      rw [List.mem_singleton.mp hd]
      apply isBlank_ofNat
      intro r hr
      have hapart := lowerMap_shifts_apart s hs r hr
      omega
    · refine ⟨List.cons_ne_nil _ _, fun d hd => ?_⟩
      rw [List.mem_singleton.mp hd]
      exact hc

/-- The same in any context. -/
theorem lowerChar_notBlank (before after : List Char) {c : Char} (hc : isBlank c = false) :
    lowerChar before c after ≠ [] ∧ ∀ d ∈ lowerChar before c after, isBlank d = false := by
  unfold lowerChar
  split
  · exact ⟨List.cons_ne_nil _ _, List.forall_mem_singleton.mpr rfl⟩
  · exact lowerMap_apply_notBlank hc

/-- A text that is not blank is not blank in lower case. -/
theorem allBlank_lowerCase {s : String} (h : allBlank s = false) : allBlank (lowerCase s) = false := by
  have hlower : ∀ (cs before : List Char) (c : Char), c ∈ cs → isBlank c = false →
      ∃ d ∈ lowerAfter before cs, isBlank d = false := by
    intro cs
    induction cs with
    | nil =>
      intro before c hc
      cases hc
    | cons e cs ih =>
      intro before c hc hnot
      rw [lowerAfter]
      rcases List.mem_cons.mp hc with rfl | hc
      · obtain ⟨hne, hall⟩ := lowerChar_notBlank before cs hnot
        obtain ⟨d, hd⟩ := List.exists_mem_of_ne_nil _ hne
        exact ⟨d, List.mem_append_left _ hd, hall d hd⟩
      · obtain ⟨d, hd, hnot'⟩ := ih (e :: before) c hc hnot
        exact ⟨d, List.mem_append_right _ hd, hnot'⟩
  rw [allBlank, List.all_eq_false] at h
  obtain ⟨c, hc, hnot⟩ := h
  obtain ⟨d, hd, hd'⟩ := hlower s.toList [] c hc (by simpa using hnot)
  rw [allBlank, lowerCase, String.toList_ofList, List.all_eq_false]
  exact ⟨d, hd, by simp [hd']⟩

end CommandConsole
