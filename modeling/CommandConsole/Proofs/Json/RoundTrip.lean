import Mathlib.Algebra.Group.Nat.Defs
import CommandConsole.Json.Reader
import CommandConsole.Json.Writer
import CommandConsole.Proofs.Text.Points

/-!
# Reading back a written list of strings

`parse_encodeStrings`: a list of texts, written as JSON, reads back as itself, whatever characters the texts hold. The
writer puts each character down as itself or as an escape; `tokensFrom_encodeChar` says that the reader, inside a
string, takes what stands for a character as that character. A character above U+FFFF is written as two units, which the
reader joins again, since the first is a high surrogate and the second a low one; no character of its own is a
surrogate.
-/

namespace CommandConsole.Json

/-! ## Digits -/

/-- A hexadecimal digit is worth the number that it stands for. -/
theorem hexValue?_digitChar : ∀ d < 16, hexValue? (Nat.digitChar d) = some d := by decide

/-- A digit that is not the last one of an escape goes into the value. -/
theorem stepMode_digit (seen : List Point) (high : Option Nat) (value missing d : Nat) (hd : d < 16) :
    stepMode (.hex seen high value (missing + 2)) (Nat.digitChar d) =
      (.hex seen high (value * 16 + d) (missing + 1), []) := by
  simp [stepMode, hexValue?_digitChar d hd]

/-- The last digit of an escape completes the value. -/
theorem stepMode_lastDigit (seen : List Point) (high : Option Nat) (value d : Nat) (hd : d < 16) :
    stepMode (.hex seen high value 1) (Nat.digitChar d) = (endHex seen high (value * 16 + d), []) := by
  simp [stepMode, hexValue?_digitChar d hd]

/-- The digits of an escape, as long as more of them follow. -/
theorem tokensFrom_hexDigits (seen : List Point) (high : Option Nat) (width : Nat) :
    ∀ (value missing n : Nat) (rest : List Char),
      tokensFrom (.hex seen high value (width + missing + 1)) (hexDigits width n ++ rest) =
        tokensFrom (.hex seen high (value * 16 ^ width + n % 16 ^ width) (missing + 1)) rest := by
  induction width with
  | zero =>
    intro value missing n rest
    simp [hexDigits, Nat.mod_one]
  | succ w ih =>
    intro value missing n rest
    have hvalue : (value * 16 ^ w + n / 16 % 16 ^ w) * 16 + n % 16 = value * 16 ^ (w + 1) + n % 16 ^ (w + 1) := by
      rw [Nat.pow_succ', Nat.mod_mul, Nat.add_mul, Nat.mul_assoc, Nat.mul_comm (16 ^ w) 16]
      omega
    have hmissing : w + 1 + missing + 1 = w + (missing + 1) + 1 := by omega
    rw [hexDigits, List.append_assoc, hmissing, ih, List.singleton_append, tokensFrom,
      stepMode_digit _ _ _ _ _ (Nat.mod_lt _ (by decide)), hvalue]
    rfl

/-- A unit that is written as an escape is read as that unit. -/
theorem tokensFrom_unit (seen : List Point) (high : Option Nat) (n : Nat) (hn : n < 0x10000) (rest : List Char) :
    tokensFrom (.hex seen high 0 4) (hexDigits 4 n ++ rest) = tokensFrom (endHex seen high n) rest := by
  have hvalue : (0 * 16 ^ 3 + n / 16 % 16 ^ 3) * 16 + n % 16 = n := by omega
  rw [hexDigits, List.append_assoc, tokensFrom_hexDigits seen high 3 0 0, List.singleton_append, tokensFrom,
    stepMode_lastDigit _ _ _ _ (Nat.mod_lt _ (by decide)), hvalue]
  rfl

/-! ## Characters -/

/-- No character is a surrogate. -/
theorem not_surrogate (c : Char) : isHighSurrogate c.toNat = false ∧ isLowSurrogate c.toNat = false := by
  have hvalid : c.toNat < 0xD800 ∨ 0xDFFF < c.toNat ∧ c.toNat < 0x110000 := c.valid
  simp only [isHighSurrogate, isLowSurrogate, Bool.and_eq_false_iff, decide_eq_false_iff_not]
  omega

/-- A character that is written by its only unit is read as itself. -/
theorem endHex_char (seen : List Point) (c : Char) : endHex seen none c.toNat = .string (.char c :: seen) := by
  obtain ⟨hhigh, hlow⟩ := not_surrogate c
  simp [endHex, hhigh, Point.ofNat_toNat]

/-- The units of a character above U+FFFF are a high and a low surrogate. -/
theorem pair_surrogates (n : Nat) (hn : n < 0x100000) :
    isHighSurrogate (0xD800 + n / 0x400) = true ∧ isLowSurrogate (0xDC00 + n % 0x400) = true := by
  simp only [isHighSurrogate, isLowSurrogate, Bool.and_eq_true, decide_eq_true_eq]
  omega

/-- The units of a character above U+FFFF give its place above U+FFFF back. -/
theorem pairChar_units (n : Nat) : pairChar (0xD800 + n / 0x400) (0xDC00 + n % 0x400) = Char.ofNat (0x10000 + n) := by
  have hsum := Nat.div_add_mod n 0x400
  rw [pairChar, Nat.add_sub_cancel_left, Nat.add_sub_cancel_left, Nat.add_assoc, Nat.mul_comm, hsum]

/-- Inside a string, the two units of a pair are read as one character. -/
theorem tokensFrom_pair (seen : List Point) (high low : Nat) (hhigh : isHighSurrogate high = true)
    (hlow : isLowSurrogate low = true) (rest : List Char) :
    tokensFrom (.string seen) (unitEscape high ++ (unitEscape low ++ rest)) =
      tokensFrom (.string (.char (pairChar high low) :: seen)) rest := by
  have hhigh' : high < 0x10000 := by
    simp only [isHighSurrogate, Bool.and_eq_true, decide_eq_true_eq] at hhigh
    omega
  have hlow' : low < 0x10000 := by
    simp only [isLowSurrogate, Bool.and_eq_true, decide_eq_true_eq] at hlow
    omega
  have hfirst := tokensFrom_unit seen none high hhigh' (unitEscape low ++ rest)
  have hsecond := tokensFrom_unit seen (some high) low hlow' rest
  simp only [endHex, hhigh, hlow, if_true] at hfirst hsecond
  rw [← hsecond]
  exact hfirst

/-- Inside a string, what is written for a character is read as that character. -/
theorem tokensFrom_encodeChar (seen : List Point) (c : Char) (rest : List Char) :
    tokensFrom (.string seen) (encodeChar c ++ rest) = tokensFrom (.string (.char c :: seen)) rest := by
  unfold encodeChar
  split
  · subst_vars; rfl
  split
  · subst_vars; rfl
  split
  · subst_vars; rfl
  split
  · subst_vars; rfl
  split
  · subst_vars; rfl
  split
  · subst_vars; rfl
  split
  · subst_vars; rfl
  split
  -- a printable character that is neither a quote nor a backslash stands for itself
  · rename_i hquote hslash _ _ _ _ _ hprint
    have hcontrol : ¬ c.toNat < 0x20 := Nat.not_lt.mpr hprint.1
    simp [tokensFrom, stepMode, stepString, hquote, hslash, hcontrol]
  split
  · rename_i hunit
    have hread := tokensFrom_unit seen none c.toNat hunit rest
    rw [endHex_char] at hread
    rw [← hread]
    rfl
  · rename_i hpair
    have hvalid : c.toNat < 0xD800 ∨ 0xDFFF < c.toNat ∧ c.toNat < 0x110000 := c.valid
    obtain ⟨hhigh, hlow⟩ := pair_surrogates (c.toNat - 0x10000) (by omega)
    rw [List.append_assoc, tokensFrom_pair seen _ _ hhigh hlow, pairChar_units,
      Nat.add_sub_cancel' (Nat.le_of_not_lt hpair), Char.ofNat_toNat]

/-- Inside a string, what is written for some characters is read as these characters. -/
theorem tokensFrom_encodeChars (cs : List Char) :
    ∀ (seen : List Point) (rest : List Char),
      tokensFrom (.string seen) ((cs.map .char).flatMap encodePoint ++ rest) =
        tokensFrom (.string ((cs.map .char).reverse ++ seen)) rest := by
  induction cs with
  | nil =>
    intro seen rest
    rfl
  | cons c cs ih =>
    intro seen rest
    rw [List.map_cons, List.flatMap_cons, List.append_assoc, encodePoint, tokensFrom_encodeChar, ih, List.reverse_cons,
      List.append_assoc]
    rfl

/-- A written text is one token, the text. -/
theorem tokensFrom_encodeString (s : String) (rest : List Char) :
    tokensFrom .between (encodeString s ++ rest) = .string (pointsOf s) :: tokensFrom .between rest := by
  have hopen : tokensFrom .between (encodeString s ++ rest) =
      tokensFrom (.string []) ((s.toList.map .char).flatMap encodePoint ++ '"' :: rest) := by
    rw [encodeString, encodePoints, pointsOf, List.append_assoc]
    rfl
  rw [hopen, tokensFrom_encodeChars]
  simp [tokensFrom, stepMode, stepString, pointsOf]

/-! ## Lists of texts -/

/-- The tokens of the items of a list after the first one. -/
def itemTokens (texts : List String) : List Token := texts.flatMap fun s => [.mark ',', .string (pointsOf s)]

/-- The tokens of the written items of a list. -/
theorem tokensFrom_items (texts : List String) :
    ∀ (s : String) (rest : List Char),
      tokensFrom .between ([',', ' '].intercalate ((s :: texts).map encodeString) ++ rest) =
        .string (pointsOf s) :: itemTokens texts ++ tokensFrom .between rest := by
  induction texts with
  | nil =>
    intro s rest
    simp [itemTokens, tokensFrom_encodeString]
  | cons t texts ih =>
    intro s rest
    have hitems := ih t rest
    rw [List.map_cons] at hitems
    rw [List.map_cons, List.map_cons, List.intercalate_cons_cons, List.append_assoc, List.append_assoc,
      tokensFrom_encodeString]
    simp [tokensFrom, stepMode, startToken, hitems, itemTokens]

/-- The tokens of a written list of texts. -/
theorem tokens_encodeStrings (s : String) (texts : List String) :
    tokens (encodeStrings (s :: texts)) = .mark '[' :: .string (pointsOf s) :: itemTokens texts ++ [.mark ']'] := by
  have hopen : tokens (encodeStrings (s :: texts)) =
      .mark '[' :: tokensFrom .between ([',', ' '].intercalate ((s :: texts).map encodeString) ++ [']']) := by
    rw [tokens, encodeStrings, encodeTexts, List.map_map, String.toList_ofList]
    rfl
  rw [hopen, tokensFrom_items]
  rfl

/-- The remaining items of a list, and its end, complete the list. -/
theorem advanceAll_items (texts : List String) :
    ∀ items : List Value,
      advanceAll ⟨[.list items], .separator⟩ (itemTokens texts ++ [.mark ']']) =
        .ok ⟨[], .finish (.list (items.reverse ++ texts.map .string))⟩ := by
  induction texts with
  | nil =>
    intro items
    simp [itemTokens, advanceAll, advance, deliver, bind, Except.bind]
  | cons t texts ih =>
    intro items
    have hitems := ih (.string t :: items)
    simp only [itemTokens] at hitems
    simp [itemTokens, advanceAll, advance, beginValue, deliver, bind, Except.bind, hitems]

/-- A written list of texts reads back as itself. -/
theorem parse_encodeStrings (texts : List String) :
    parse (encodeStrings texts) = .ok (.list (texts.map .string)) := by
  cases texts with
  | nil => rfl
  | cons s texts =>
    have hitems := advanceAll_items texts [.string s]
    rw [parse, tokens_encodeStrings]
    simp [advanceAll, advance, beginValue, openContainer, maxDepth, deliver, bind, Except.bind, hitems]
    rfl

end CommandConsole.Json
