import CommandConsole.Proofs.Text.CharMap
import CommandConsole.Text.UpperCase

/-!
# Upper case of upper case, and of joined texts

Each character is mapped on its own, so the upper case of joined texts is joined from theirs (`upperCase_append`). No
character is lost (`upperCase_eq_empty_iff`), and what is in upper case stays as it is (`upperCase_upperCase`), as do the
characters in front of the small letters (`upperCase_eq_self`).
-/

namespace CommandConsole

/-- The tables of the upper case lead no further than once. -/
theorem upperMap_settled : upperMap.Settled where
  texts := by decide +kernel
  shifts := by decide +kernel
  own := by decide +kernel
  null := by decide +kernel

/-- No character is without an upper case. -/
theorem upperMap_filled : (upperMap.expansions.all fun e => !e.2.isEmpty) = true := by decide +kernel

/-- The tables begin with the small letters. -/
theorem upperMap_begins :
    (upperMap.expansions.all fun e => 'a'.toNat.ble e.1) = true ∧
      (upperMap.shifts.all fun s => 'a'.toNat.ble s.first) = true := by
  constructor <;> decide +kernel

/-- The upper case of joined texts. -/
theorem upperCase_append (s t : String) : upperCase (s ++ t) = upperCase s ++ upperCase t := by
  rw [upperCase, String.toList_append, List.flatMap_append, String.ofList_append, upperCase, upperCase]

/-- Upper-casing twice is upper-casing once. -/
@[simp] theorem upperCase_upperCase (s : String) : upperCase (upperCase s) = upperCase s := by
  rw [upperCase, upperCase, String.toList_ofList]
  exact congrArg String.ofList (upperMap_settled.flatMap_apply_twice s.toList)

/-- The upper case of a character is one or more characters. -/
theorem upperChar_ne_nil (c : Char) : upperChar c ≠ [] := by
  rw [upperChar, CharMap.apply]
  split
  · rename_i text hlookup
    have hfilled := List.all_eq_true.mp upperMap_filled _ (mem_of_lookup hlookup)
    simpa using hfilled
  · split <;> exact List.cons_ne_nil _ _

/-- Upper-casing leaves nothing exactly of nothing. -/
theorem upperCase_eq_empty_iff {s : String} : upperCase s = "" ↔ s = "" := by
  constructor
  · intro h
    have hnil : s.toList.flatMap upperChar = [] := by simpa [upperCase] using h
    cases hs : s.toList with
    | nil => simpa using hs
    | cons c cs =>
      rw [hs, List.flatMap_cons, List.append_eq_nil_iff] at hnil
      exact absurd hnil.1 (upperChar_ne_nil c)
  · rintro rfl
    rfl

/-- A text without small letters, and without anything behind them, is in upper case. -/
theorem upperCase_eq_self {s : String} (h : ∀ c ∈ s.toList, c.toNat < 'a'.toNat) : upperCase s = s := by
  obtain ⟨hown, hshift⟩ := upperMap_begins
  have hfixed : ∀ c ∈ s.toList, upperMap.apply c = [c] := by
    intro c hc
    have hbefore := h c hc
    apply CharMap.apply_uncovered
    · intro e he
      have hbegins := Nat.ble_eq.mp (List.all_eq_true.mp hown e he)
      omega
    · intro t ht
      have hbegins := Nat.ble_eq.mp (List.all_eq_true.mp hshift t ht)
      rw [Shift.image?, if_neg]
      omega
  rw [upperCase]
  exact (congrArg String.ofList (CharMap.flatMap_apply_eq_self hfixed)).trans String.ofList_toList

end CommandConsole
