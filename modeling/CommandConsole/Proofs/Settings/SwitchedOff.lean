import CommandConsole.Proofs.Settings.Coercion
import CommandConsole.Proofs.Text.LowerCase

/-!
# Values that switch a setting off

A setting is switched off by its text. Only a value that is nothing at all, or a text itself, has such a text
(`isOff_text_iff`): all others have a character in theirs that is no blank and stays as it is in lower case
(`not_isOff_of_mark`).
-/

namespace CommandConsole.Settings

/-- A character that is in the text of a value, but in none that switches a setting off. -/
def IsMark (c : Char) : Prop := isBlank c = false ∧ lowerMap.apply c = [c] ∧ c ∉ "none".toList

instance (c : Char) : Decidable (IsMark c) := inferInstanceAs (Decidable (_ ∧ _ ∧ _))

/-- A text with a mark does not switch a setting off. -/
theorem not_isOff_of_mark {t : String} {c : Char} (hc : c ∈ t.toList) (hmark : IsMark c) : ¬ IsOff t := by
  obtain ⟨hblank, hlower, hother⟩ := hmark
  rintro (hall | hnone)
  · rw [allBlank, List.all_eq_true] at hall
    rw [hall c hc] at hblank
    cases hblank
  · refine hother ?_
    obtain ⟨before, after, hsplit⟩ := List.append_of_mem (mem_stripBlanks hc hblank)
    rw [← hnone, lowerCase, strip, String.toList_ofList, String.toList_ofList, mem_lowerAfter]
    exact ⟨before, c, after, hsplit, by rw [lowerChar_fixed hlower, List.mem_singleton]⟩

/-- Digits are marks. -/
theorem isMark_of_isDigit {c : Char} (h : c.isDigit = true) : IsMark c := by
  have hall : ∀ k : Fin 10, IsMark (Char.ofNat ('0'.toNat + k)) := by decide +kernel
  obtain ⟨hzero, hnine⟩ := Char.isDigit_iff_toNat.mp h
  have hplace : '0'.toNat + (c.toNat - '0'.toNat) = c.toNat := Nat.add_sub_cancel' hzero
  have hc := hall ⟨c.toNat - '0'.toNat, Nat.lt_succ_of_le (Nat.sub_le_sub_right hnine _)⟩
  rwa [hplace, Char.ofNat_toNat] at hc

/-- So are the signs in the texts of dates, times, fractions, lists and tables, and some letters. -/
theorem isMark_signs : ∀ c ∈ "+-.:[\x7barf".toList, IsMark c := by
  have hall : ("+-.:[\x7barf".toList.all fun c => decide (IsMark c)) = true := by decide +kernel
  exact fun c hc => of_decide_eq_true (List.all_eq_true.mp hall c hc)

/-- A decimal has a point in its text, or the sign of its exponent. -/
theorem decimal_text_marked (d : Binary64.Decimal) : ∃ c ∈ d.text.toList, IsMark c := by
  rw [Binary64.Decimal.text]
  dsimp only
  split
  · by_cases hsign : d.point - 1 < 0
    · exact ⟨'-', by simp [Binary64.exponentText, hsign], isMark_signs _ (by decide)⟩
    · exact ⟨'+', by simp [Binary64.exponentText, hsign], isMark_signs _ (by decide)⟩
  · refine ⟨'.', ?_, isMark_signs _ (by decide)⟩
    split
    · simp
    · split <;> simp

theorem float_text_marked (x : Binary64) : ∃ c ∈ x.text.toList, IsMark c := by
  by_cases hfinite : x.isFinite = true
  · by_cases hzero : x.isZero = true
    · exact ⟨'.', by simp [Binary64.text, hfinite, hzero], isMark_signs _ (by decide)⟩
    · obtain ⟨c, hc, hmark⟩ := decimal_text_marked x.shortest
      exact ⟨c, by simp [Binary64.text, hfinite, hzero, hc], hmark⟩
  · by_cases hfraction : x.fractionField = 0
    · exact ⟨'f', by simp [Binary64.text, hfinite, hfraction], isMark_signs _ (by decide)⟩
    · exact ⟨'a', by simp [Binary64.text, hfinite, hfraction], isMark_signs _ (by decide)⟩

/-- All values but nothing at all and texts have marks in their texts. -/
theorem text_marked {v : Value} (hnull : v ≠ .null) (htext : ∀ t, v ≠ .string t) : ∃ c ∈ v.text.toList, IsMark c := by
  cases v with
  | null => exact absurd rfl hnull
  | string t => exact absurd rfl (htext t)
  | bool b =>
    cases b with
    | true => exact ⟨'r', by decide, isMark_signs _ (by decide)⟩
    | false => exact ⟨'a', by decide, isMark_signs _ (by decide)⟩
  | int n =>
    obtain ⟨c, hc⟩ := List.exists_mem_of_ne_nil _ (Nat.toDigits_ne_nil (b := 10) (n := n.natAbs))
    refine ⟨c, ?_, isMark_of_isDigit (Nat.isDigit_of_mem_toDigits (by decide) (by decide) hc)⟩
    show c ∈ (toString n).toList
    rw [toList_toString_int]
    split
    · exact hc
    · exact List.mem_cons_of_mem _ hc
  | float x => exact float_text_marked x
  | ragged t =>
    obtain ⟨p, hp, hlone⟩ := List.any_eq_true.mp t.isRagged
    refine ⟨'\uFFFD', ?_, by decide +kernel⟩
    cases p with
    | char c => cases hlone
    | lone offset =>
      rw [Value.text, shownText, String.toList_ofList]
      exact List.mem_map_of_mem hp
  | date d => exact ⟨'-', by simp [Value.text, Date.text, ToString.toString], isMark_signs _ (by decide)⟩
  | time t =>
    refine ⟨':', ?_, isMark_signs _ (by decide)⟩
    show ':' ∈ t.text.toList
    rw [Clock.text]
    split <;> simp [ToString.toString]
  | dateTime d t offset =>
    exact ⟨'-', by simp [Value.text, dateTimeText, Date.text, ToString.toString], isMark_signs _ (by decide)⟩
  | list items => exact ⟨'[', by simp [Value.text, Value.display], isMark_signs _ (by decide)⟩
  | table entries => exact ⟨'\x7b', by simp [Value.text, Value.display], isMark_signs _ (by decide)⟩

/-- Only nothing at all and a text that does so switch a setting off. -/
theorem isOff_text_iff {v : Value} : IsOff v.text ↔ v = .null ∨ ∃ t, v = .string t ∧ IsOff t := by
  constructor
  · intro hoff
    by_contra hother
    rw [not_or] at hother
    have htext : ∀ t, v ≠ .string t := by
      rintro t rfl
      exact hother.2 ⟨t, rfl, hoff⟩
    obtain ⟨c, hc, hmark⟩ := text_marked hother.1 htext
    exact not_isOff_of_mark hc hmark hoff
  · rintro (rfl | ⟨t, rfl, ht⟩)
    · decide
    · exact ht

end CommandConsole.Settings
