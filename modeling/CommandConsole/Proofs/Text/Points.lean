import CommandConsole.Value

/-!
# Texts of characters

A text without surrogates is shown as itself (`shownText_pointsOf`), and what is done to its code points is what is done to
its characters.
-/

namespace CommandConsole

/-- A text of characters is shown as it is. -/
@[simp] theorem shownText_pointsOf (s : String) : shownText (pointsOf s) = s := by
  have hback : Point.shown ∘ Point.char = id := rfl
  rw [shownText, pointsOf, List.map_map, hback, List.map_id, String.ofList_toList]

/-- No surrogate is in a text of characters. -/
@[simp] theorem pointsOf_noneLone (s : String) : (pointsOf s).any Point.isLone = false := by
  rw [pointsOf, List.any_map, List.any_eq_false]
  exact fun _ _ => Bool.false_ne_true

/-- The code point of the number of a character is that character. -/
@[simp] theorem Point.ofNat_toNat (c : Char) : Point.ofNat c.toNat = .char c := by
  have hvalid : c.toNat < 0xD800 ∨ 0xDFFF < c.toNat ∧ c.toNat < 0x110000 := c.valid
  rw [Point.ofNat, dif_neg (by rw [firstSurrogate]; omega), Char.ofNat_toNat]

/-- A text of characters is a `String`. -/
@[simp] theorem Value.ofPoints_pointsOf (s : String) : Value.ofPoints (pointsOf s) = .string s := by
  rw [Value.ofPoints, dif_neg (by simp), shownText_pointsOf]

/-- The text of a value is a `String`, unless the value is a text with surrogates itself. -/
theorem Value.asText_cases (v : Value) :
    v.asText = v ∨ v.asText = .string v.text ∧ v.points = pointsOf v.text := by
  cases v with
  | ragged t =>
    left
    rw [asText, points, ofPoints, dif_pos t.isRagged]
  | _ => exact Or.inr ⟨ofPoints_pointsOf _, rfl⟩

end CommandConsole
