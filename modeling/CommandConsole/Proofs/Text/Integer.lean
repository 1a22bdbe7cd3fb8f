import Mathlib.Data.List.Basic
import Mathlib.Data.Nat.Init
import CommandConsole.Proofs.Text.Words
import CommandConsole.Text.Integer

/-!
# Integers are read back from their texts

Decimal digits of any script spell one number, `decimalValue` (`parseInteger_decimal`). Written digits spell the number
that they were written for (`parseNatural_toDigits`), and nothing else stands in the text of an integer but a sign. So
an integer that has no more than `maxDigits` digits is read back from its text (`parseInteger_toString`).
-/

namespace CommandConsole

/-- The value of a digit, from its place behind the zero. -/
theorem digitValue?_of_isDigit {c : Char} (h : c.isDigit = true) : digitValue? c = some (c.toNat - '0'.toNat) := by
  obtain ⟨hzero, hnine⟩ := Char.isDigit_iff_toNat.mp h
  have hzeros : zeroDigits = '0'.toNat :: zeroDigits.tail := rfl
  rw [digitValue?, hzeros, List.find?_cons_of_pos]
  · rfl
  · rw [Bool.and_eq_true, decide_eq_true_eq, decide_eq_true_eq]
    exact ⟨hzero, Nat.lt_succ_of_le hnine⟩

/-- A digit is a decimal digit. -/
theorem isDecimalDigit_of_isDigit {c : Char} (h : c.isDigit = true) : isDecimalDigit c = true := by
  rw [isDecimalDigit, digitValue?_of_isDigit h]
  rfl

/-- A text of nothing but decimal digits is their values. -/
theorem digitGroups?_of_isDecimalDigit {cs : List Char} (hne : cs ≠ []) (h : ∀ c ∈ cs, isDecimalDigit c = true) :
    digitGroups? cs = some (cs.filterMap digitValue?) := by
  fun_induction digitGroups? cs with
  | case1 => exact absurd rfl hne
  | case2 c =>
    obtain ⟨d, hd⟩ := Option.isSome_iff_exists.mp (h c List.mem_cons_self)
    simp [hd]
  | case3 c cs ih => exact absurd (h '_' (by simp)) (by decide)
  | case4 c cs hone hmark ih =>
    have hcs : cs ≠ [] := fun hnil => hone hnil
    have hrest := ih hcs fun d hd => h d (List.mem_cons_of_mem _ hd)
    obtain ⟨d, hd⟩ := Option.isSome_iff_exists.mp (h c List.mem_cons_self)
    simp [hd, hrest]

/-- A text of nothing but digits is its digits. -/
theorem digitGroups?_of_isDigit {cs : List Char} (hne : cs ≠ []) (h : ∀ c ∈ cs, c.isDigit = true) :
    digitGroups? cs = some (cs.map fun c => c.toNat - '0'.toNat) := by
  have hvalues : cs.filterMap digitValue? = cs.map fun c => c.toNat - '0'.toNat :=
    List.filterMap_eq_map_iff_forall_eq_some.mpr fun c hc => digitValue?_of_isDigit (h c hc)
  rw [digitGroups?_of_isDecimalDigit hne fun c hc => isDecimalDigit_of_isDigit (h c hc), hvalues]

/-- The digits of a number spell it. -/
theorem parseNatural_toDigits {n : Nat} (h : n < Nat.pow 10 maxDigits) :
    parseNatural (Nat.toDigits 10 n) = .ok n := by
  have hdigits : ∀ c ∈ Nat.toDigits 10 n, c.isDigit = true := fun c hc =>
    Nat.isDigit_of_mem_toDigits (by decide) (by decide) hc
  -- said of any bound, for the power of this one is a number too large to be computed
  have hlength : ∀ {k : Nat}, 0 < k → n < Nat.pow 10 k → (Nat.toDigits 10 n).length ≤ k := fun hpos hn =>
    (Nat.length_toDigits_le_iff (by decide) hpos).mpr hn
  have hspelled : ofDigits 10 ((Nat.toDigits 10 n).map fun c => c.toNat - '0'.toNat) = n := by
    have hback : Nat.ofDigitChars 10 (Nat.toDigits 10 n) 0 = n := Nat.ofDigitChars_ten_toDigits
    rw [Nat.ofDigitChars_eq_foldl] at hback
    simpa only [ofDigits, List.foldl_map, Nat.mul_comm] using hback
  rw [parseNatural, digitGroups?_of_isDigit Nat.toDigits_ne_nil hdigits]
  simp only [List.length_map, if_neg (Nat.not_lt.mpr (hlength (by decide) h)), hspelled]

/-- A text of decimal digits has no sign. -/
theorem parseInteger_of_isDecimalDigit {s : String} (h : ∀ c ∈ s.toList, isDecimalDigit c = true) :
    parseInteger s = (parseNatural s.toList).map Int.ofNat := by
  rw [parseInteger]
  split
  · rename_i cs hs
    exact absurd (h '-' (by simp [hs])) (by decide)
  · rename_i cs hs
    exact absurd (h '+' (by simp [hs])) (by decide)
  · rfl

/-- The number that the decimal digits of a text spell, of whatever script they are. -/
def decimalValue (s : String) : Nat := ofDigits 10 (s.toList.filterMap digitValue?)

/-- A text of decimal digits is the integer that they spell, unless there are too many. -/
theorem parseInteger_decimal {s : String} (hne : s ≠ "") (h : ∀ c ∈ s.toList, isDecimalDigit c = true) :
    parseInteger s =
      if s.length > maxDigits then .error (.tooLong s.length) else .ok (Int.ofNat (decimalValue s)) := by
  have hfilled : s.toList ≠ [] := by simpa using hne
  have hlength : (s.toList.filterMap digitValue?).length = s.length := by
    rw [List.filterMap_length_eq_length.mpr h, String.length_toList]
  rw [parseInteger_of_isDecimalDigit h, parseNatural, digitGroups?_of_isDecimalDigit hfilled h]
  simp only [hlength, decimalValue]
  split <;> rfl

/-- The text of an integer: a sign, if it is negative, and digits. -/
theorem toList_toString_int (n : Int) :
    (toString n).toList = if 0 ≤ n then Nat.toDigits 10 n.natAbs else '-' :: Nat.toDigits 10 n.natAbs := by
  rw [Int.toString_eq_repr, Int.repr_eq_if]
  split
  · rename_i hn
    have habs : n.toNat = n.natAbs := by omega
    rw [Nat.toList_repr, habs]
  · have habs : (-n).toNat = n.natAbs := by omega
    rw [String.toList_append, Nat.toList_repr, habs]
    rfl

/-- Nothing else stands in the text of an integer. -/
theorem not_mem_toString_int {c : Char} (hdigit : c.isDigit = false) (hsign : c ≠ '-') (n : Int) :
    c ∉ (toString n).toList := by
  have hdigits : c ∉ Nat.toDigits 10 n.natAbs := by
    intro hc
    have hof := Nat.isDigit_of_mem_toDigits (by decide) (by decide) hc
    rw [hdigit] at hof
    cases hof
  rw [toList_toString_int]
  split
  · exact hdigits
  · exact List.not_mem_cons_of_ne_of_not_mem hsign hdigits

/-- No blanks stand in the text of an integer. -/
theorem strip_toString_int (n : Int) : strip (toString n) = toString n := by
  have hdigit : ∀ c : Char, c.isDigit = true → isBlank c = false := by
    intro c hc
    have hrange : CodePoints.has [('0'.toNat, '9'.toNat)] c = true := by
      simpa [CodePoints.has] using Char.isDigit_iff_toNat.mp hc
    have hapart : CodePoints.apart [('0'.toNat, '9'.toNat)] blankChars = true := by decide
    exact CodePoints.has_of_apart hapart hrange
  have hnone : ∀ c ∈ (toString n).toList, isBlank c = false := by
    have hdigits : ∀ c ∈ Nat.toDigits 10 n.natAbs, isBlank c = false := fun c hc =>
      hdigit c (Nat.isDigit_of_mem_toDigits (by decide) (by decide) hc)
    rw [toList_toString_int]
    split
    · exact hdigits
    · exact List.forall_mem_cons.mpr ⟨rfl, hdigits⟩
  rw [strip, stripBlanks_eq_self hnone, String.ofList_toList]

/-- An integer is read back from its text. -/
theorem parseInteger_toString {n : Int} (h : n.natAbs < Nat.pow 10 maxDigits) : parseInteger (toString n) = .ok n := by
  have hnatural := parseNatural_toDigits h
  have htext := toList_toString_int n
  split at htext
  · have hdigits : ∀ c ∈ (toString n).toList, c.isDigit = true := by
      rw [htext]
      exact fun c hc => Nat.isDigit_of_mem_toDigits (by decide) (by decide) hc
    have habs : (n.natAbs : Int) = n := by omega
    rw [parseInteger_of_isDecimalDigit fun c hc => isDecimalDigit_of_isDigit (hdigits c hc), htext, hnatural]
    exact congrArg Except.ok habs
  · have habs : -(n.natAbs : Int) = n := by omega
    rw [parseInteger, htext]
    simp only [hnatural]
    exact congrArg Except.ok habs

end CommandConsole
