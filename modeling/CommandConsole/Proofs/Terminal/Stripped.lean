import Mathlib.Data.List.TakeWhile
import CommandConsole.Log.Logger

/-!
# What stripping leaves

`stripEscapes` takes away each escape sequence of a text and nothing else (`stripsTo_strip`). What stood on both sides of a
sequence comes together then, and can make a new one: that is so where a sequence is split by other ones
(`IsSplitEscape`), and only there (`escapes_left_iff`). So a text that was stripped may hold an escape sequence, and so
may what is printed without a terminal (`escape_left`).
-/

namespace CommandConsole

/-! ## Escape sequences -/

/-- The characters begin with an escape sequence. -/
def BeginsEscape (cs : List Char) : Prop := ∃ escape after, IsEscape escape ∧ cs = escape ++ after

/-- A character that stands nowhere in an escape sequence, except at its beginning. -/
structure Bounds (c : Char) : Prop where
  bracket : c ≠ '['
  parameter : isEscapeParameter c = false
  letter : c.isAlpha = false

theorem escape_bounds : Bounds '\x1b' := ⟨by decide, by decide, by decide⟩

theorem lineEnd_bounds : Bounds '\n' := ⟨by decide, by decide, by decide⟩

/-- A letter is no parameter. -/
theorem parameter_of_isAlpha {c : Char} (h : c.isAlpha = true) : isEscapeParameter c = false := by
  delta Char.isAlpha Char.isUpper Char.isLower at h
  simp only [Bool.or_eq_true, Bool.and_eq_true, decide_eq_true_eq, UInt32.le_iff_toNat_le, ge_iff_le] at h
  have hdigit : c.isDigit = false := by
    simp only [Char.isDigit, Bool.and_eq_false_iff, decide_eq_false_iff_not, UInt32.le_iff_toNat_le, ge_iff_le]
    have h9 : '9'.val.toNat = 57 := rfl
    have hA : 'A'.val.toNat = 65 := rfl
    have ha : 'a'.val.toNat = 97 := rfl
    omega
  have hne : c ≠ ';' := by
    rintro rfl
    revert h
    decide
  simp [isEscapeParameter, hdigit, hne]

/-- An escape sequence behind its escape character: a bracket, parameters and a letter. -/
theorem isEscape_iff {tail : List Char} :
    IsEscape ('\x1b' :: tail) ↔
      ∃ parameters letter, tail = '[' :: (parameters ++ [letter]) ∧ (∀ c ∈ parameters, isEscapeParameter c = true) ∧
        letter.isAlpha = true := by
  constructor
  · rintro ⟨parameters, letter, h, hl⟩
    exact ⟨parameters, letter, rfl, h, hl⟩
  · rintro ⟨parameters, letter, rfl, h, hl⟩
    exact ⟨parameters, letter, h, hl⟩

/-- An escape sequence begins with an escape character. -/
theorem IsEscape.eq_cons {escape : List Char} (h : IsEscape escape) :
    ∃ tail, escape = '\x1b' :: tail ∧ IsEscape ('\x1b' :: tail) := by
  obtain ⟨parameters, letter, hp, hl⟩ := h
  exact ⟨_, rfl, parameters, letter, hp, hl⟩

/-- Behind its beginning, an escape sequence holds none of the characters that bound it. -/
theorem Bounds.not_mem_tail {b : Char} (hb : Bounds b) {tail : List Char} (h : IsEscape ('\x1b' :: tail)) :
    b ∉ tail := by
  obtain ⟨parameters, letter, rfl, hp, hl⟩ := isEscape_iff.mp h
  intro hmem
  rcases List.mem_cons.mp hmem with hmem | hmem
  · exact hb.bracket hmem
  rcases List.mem_append.mp hmem with hmem | hmem
  · have hparameter := hp b hmem
    rw [hb.parameter] at hparameter
    cases hparameter
  · rw [List.mem_singleton.mp hmem] at hb
    rw [hb.letter] at hl
    cases hl

/-- An escape sequence does not go on beyond a character that bounds it. -/
theorem Bounds.beginsEscape_append {b c : Char} (hb : Bounds b) (front back : List Char) :
    BeginsEscape (c :: (front ++ b :: back)) ↔ BeginsEscape (c :: front) := by
  constructor
  · rintro ⟨escape, after, hescape, h⟩
    obtain ⟨tail, rfl, htail⟩ := hescape.eq_cons
    rw [List.cons_append, List.cons.injEq] at h
    obtain ⟨rfl, h⟩ := h
    rcases List.append_eq_append_iff.mp h with ⟨more, rfl, hmore⟩ | ⟨more, rfl, -⟩
    · cases more with
      | nil => exact ⟨_, [], hescape, by rw [List.append_nil, List.append_nil]⟩
      | cons d more =>
        rw [List.cons_append, List.cons.injEq] at hmore
        obtain ⟨rfl, -⟩ := hmore
        exact absurd (List.mem_append_right _ List.mem_cons_self) (hb.not_mem_tail htail)
    · exact ⟨_, more, hescape, rfl⟩
  · rintro ⟨escape, after, hescape, h⟩
    refine ⟨escape, after ++ b :: back, hescape, ?_⟩
    rw [← List.append_assoc, ← h, List.cons_append]

/-- An escape sequence is at the beginning, or somewhere behind the first character. -/
theorem hasEscape_cons {c : Char} {cs : List Char} : HasEscape (c :: cs) ↔ BeginsEscape (c :: cs) ∨ HasEscape cs := by
  constructor
  · rintro ⟨before, escape, after, hescape, h⟩
    cases before with
    | nil => exact Or.inl ⟨escape, after, hescape, h⟩
    | cons d before =>
      rw [List.cons_append, List.cons_append, List.cons.injEq] at h
      exact Or.inr ⟨before, escape, after, hescape, h.2⟩
  · rintro (⟨escape, after, hescape, h⟩ | ⟨before, escape, after, hescape, rfl⟩)
    · exact ⟨[], escape, after, hescape, h⟩
    · exact ⟨c :: before, escape, after, hescape, rfl⟩

theorem not_hasEscape_nil : ¬ HasEscape [] := by
  rintro ⟨before, escape, after, ⟨parameters, letter, -, -⟩, h⟩
  simp at h

/-- The lines of a text hold its escape sequences. -/
theorem hasEscape_lines {front back : List Char} :
    HasEscape (front ++ '\n' :: back) ↔ HasEscape front ∨ HasEscape back := by
  induction front with
  | nil =>
    have hline : ¬ BeginsEscape ('\n' :: back) := by
      rintro ⟨_, _, ⟨_, _, _, _⟩, h⟩
      cases h
    simp [hasEscape_cons, hline, not_hasEscape_nil]
  | cons c front ih =>
    rw [List.cons_append, hasEscape_cons, hasEscape_cons, ih, lineEnd_bounds.beginsEscape_append, or_assoc]

/-! ## Stripping -/

/-- Taking away the escape sequences of the first characters leaves the second ones. -/
inductive StripsTo : List Char → List Char → Prop
  | nil : StripsTo [] []
  | escape {escape cs left : List Char} (he : IsEscape escape) (h : StripsTo cs left) : StripsTo (escape ++ cs) left
  | keep {c : Char} {cs left : List Char} (hc : ¬ BeginsEscape (c :: cs)) (h : StripsTo cs left) :
      StripsTo (c :: cs) (c :: left)

/-- The length of an escape sequence at the beginning is found. -/
theorem escapeLength?_of_isEscape {tail : List Char} (h : IsEscape ('\x1b' :: tail)) (after : List Char) :
    escapeLength? (tail ++ after) = some tail.length := by
  obtain ⟨parameters, letter, rfl, hp, hl⟩ := isEscape_iff.mp h
  have hletter := parameter_of_isAlpha hl
  simp only [escapeLength?, List.cons_append, List.append_assoc, List.dropWhile_append_of_pos hp,
    List.takeWhile_append_of_pos hp, List.nil_append, List.dropWhile_cons, List.takeWhile_cons, hletter, hl,
    Bool.false_eq_true, if_false, if_true, List.append_nil, List.length_cons, List.length_append, List.length_nil]

/-- If a length is found, it is that of an escape sequence at the beginning. -/
theorem isEscape_of_escapeLength? {cs : List Char} {n : Nat} (h : escapeLength? cs = some n) :
    IsEscape ('\x1b' :: cs.take n) := by
  unfold escapeLength? at h
  split at h
  · rename_i rest
    split at h
    · rename_i letter after hdrop
      split at h
      · rename_i hl
        cases h
        refine isEscape_iff.mpr ⟨rest.takeWhile isEscapeParameter, letter, ?_, fun c hc => List.mem_takeWhile_imp hc, hl⟩
        have hrest : rest = rest.takeWhile isEscapeParameter ++ letter :: after := by
          rw [← hdrop, List.takeWhile_append_dropWhile]
        rw [List.take_succ_cons, List.cons.injEq]
        refine ⟨rfl, ?_⟩
        generalize rest.takeWhile isEscapeParameter = parameters at hrest
        rw [hrest, List.take_append, List.take_of_length_le (Nat.le_succ _), Nat.add_sub_cancel_left]
        rfl
      · cases h
    · cases h
  · cases h

/-- Only where an escape character begins a sequence, a length is found behind it. -/
theorem beginsEscape_iff {c : Char} {cs : List Char} :
    BeginsEscape (c :: cs) ↔ c = '\x1b' ∧ (escapeLength? cs).isSome := by
  constructor
  · rintro ⟨escape, after, hescape, h⟩
    obtain ⟨tail, rfl, htail⟩ := hescape.eq_cons
    rw [List.cons_append, List.cons.injEq] at h
    rw [h.2, escapeLength?_of_isEscape htail]
    exact ⟨h.1, rfl⟩
  · rintro ⟨rfl, h⟩
    obtain ⟨n, hn⟩ := Option.isSome_iff_exists.mp h
    exact ⟨_, cs.drop n, isEscape_of_escapeLength? hn, by rw [List.cons_append, List.take_append_drop]⟩

/-- Dropping characters first is stripping what is behind them. -/
theorem stripEscapesAfter_drop (skip : Nat) (cs : List Char) :
    stripEscapesAfter skip cs = stripEscapesAfter 0 (cs.drop skip) := by
  induction skip generalizing cs with
  | zero => rw [List.drop_zero]
  | succ skip ih =>
    cases cs with
    | nil => rfl
    | cons c cs => exact ih cs

/-- A sequence at the beginning is stripped. -/
theorem strip_escape {escape : List Char} (h : IsEscape escape) (after : List Char) :
    stripEscapesAfter 0 (escape ++ after) = stripEscapesAfter 0 after := by
  obtain ⟨tail, rfl, htail⟩ := h.eq_cons
  rw [List.cons_append, stripEscapesAfter, if_pos rfl, escapeLength?_of_isEscape htail]
  simp only [stripEscapesAfter_drop tail.length, List.drop_left]

/-- A character that begins no sequence is left. -/
theorem strip_keep {c : Char} {cs : List Char} (h : ¬ BeginsEscape (c :: cs)) :
    stripEscapesAfter 0 (c :: cs) = c :: stripEscapesAfter 0 cs := by
  rw [stripEscapesAfter]
  split
  · rename_i hc
    split
    · rename_i n hn
      exact absurd (beginsEscape_iff.mpr ⟨hc, by rw [hn]; rfl⟩) h
    · rfl
  · rfl

/-- What is left is what is left of the characters behind each sequence, and the other characters. The induction is on the
number of characters: a sequence goes as a whole. -/
theorem stripsTo_strip (cs : List Char) : StripsTo cs (stripEscapesAfter 0 cs) := by
  induction hlength : cs.length using Nat.strongRecOn generalizing cs with
  | ind n ih =>
    subst hlength
    cases cs with
    | nil => exact .nil
    | cons c cs =>
      by_cases hbegins : BeginsEscape (c :: cs)
      · obtain ⟨escape, after, hescape, h⟩ := hbegins
        have hshorter : after.length < (c :: cs).length := by
          obtain ⟨tail, rfl, -⟩ := hescape.eq_cons
          rw [h, List.cons_append, List.length_cons, List.length_append]
          omega
        rw [h, strip_escape hescape]
        exact .escape hescape (ih _ hshorter after rfl)
      · rw [strip_keep hbegins]
        exact .keep hbegins (ih _ (Nat.lt_succ_self _) cs rfl)

/-- An escape character begins anew: what is before it is stripped on its own. -/
theorem strip_append_escape (front back : List Char) :
    stripEscapesAfter 0 (front ++ '\x1b' :: back) =
      stripEscapesAfter 0 front ++ stripEscapesAfter 0 ('\x1b' :: back) := by
  have h := stripsTo_strip front
  generalize stripEscapesAfter 0 front = left at h
  induction h with
  | nil => rfl
  | escape he _ ih => rw [List.append_assoc, strip_escape he, ih]
  | keep hc _ ih =>
    rw [List.cons_append, strip_keep (mt (escape_bounds.beginsEscape_append _ _).mp hc), ih, List.cons_append]

theorem strip_length_le (cs : List Char) : (stripEscapesAfter 0 cs).length ≤ cs.length := by
  have h := stripsTo_strip cs
  generalize stripEscapesAfter 0 cs = left at h
  induction h with
  | nil => exact Nat.le_refl 0
  | escape _ _ ih =>
    rw [List.length_append]
    omega
  | keep _ _ ih => exact Nat.succ_le_succ ih

/-- Characters are left as they are if there is no escape sequence among them, and only then. -/
theorem strip_eq_self_iff {cs : List Char} : stripEscapesAfter 0 cs = cs ↔ ¬ HasEscape cs := by
  constructor
  · rintro h ⟨before, escape, after, hescape, rfl⟩
    obtain ⟨tail, rfl, -⟩ := hescape.eq_cons
    have hlength := congrArg List.length h
    rw [List.append_assoc, List.cons_append, strip_append_escape, ← List.cons_append, strip_escape hescape] at hlength
    have hbefore := strip_length_le before
    have hafter := strip_length_le after
    simp only [List.length_append, List.length_cons] at hlength
    omega
  · intro h
    induction cs with
    | nil => rfl
    | cons c cs ih =>
      rw [hasEscape_cons, not_or] at h
      rw [strip_keep h.1, ih h.2]

/-! ## Split sequences -/

/-- The second characters are the first ones with escape sequences put in front of some of them. -/
inductive Woven : List Char → List Char → Prop
  | nil : Woven [] []
  | keep {c : Char} {cs woven : List Char} (h : Woven cs woven) : Woven (c :: cs) (c :: woven)
  | insert {escape cs woven : List Char} (he : IsEscape escape) (hcs : cs ≠ []) (h : Woven cs woven) :
      Woven cs (escape ++ woven)

/-- An escape sequence with other ones inside of it. -/
inductive IsSplitEscape : List Char → Prop
  | mk {tail woven : List Char} (he : IsEscape ('\x1b' :: tail)) (hw : Woven tail woven) (hsplit : woven ≠ tail) :
      IsSplitEscape ('\x1b' :: woven)

/-- Some part of a text is an escape sequence with other ones inside of it. -/
def HasSplitEscape (cs : List Char) : Prop := ∃ before split after, IsSplitEscape split ∧ cs = before ++ split ++ after

/-- The first part of what is left comes from a first part, with the sequences that were taken away. -/
theorem StripsTo.split {cs left : List Char} (h : StripsTo cs left) :
    ∀ {front back : List Char}, left = front ++ back →
      ∃ woven rest, cs = woven ++ rest ∧ Woven front woven ∧ StripsTo rest back := by
  induction h with
  | nil =>
    intro front back hleft
    obtain ⟨rfl, rfl⟩ := List.append_eq_nil_iff.mp hleft.symm
    exact ⟨[], [], rfl, .nil, .nil⟩
  | @escape escape cs left he h ih =>
    intro front back hleft
    by_cases hfront : front = []
    · subst hfront
      cases hleft
      exact ⟨[], escape ++ cs, rfl, .nil, .escape he h⟩
    · obtain ⟨woven, rest, rfl, hw, hrest⟩ := ih hleft
      exact ⟨escape ++ woven, rest, (List.append_assoc _ _ _).symm, .insert he hfront hw, hrest⟩
  | @keep c cs left hc h ih =>
    intro front back hleft
    cases front with
    | nil =>
      cases hleft
      exact ⟨[], c :: cs, rfl, .nil, .keep hc h⟩
    | cons d front =>
      rw [List.cons_append, List.cons.injEq] at hleft
      obtain ⟨rfl, hleft⟩ := hleft
      obtain ⟨woven, rest, rfl, hw, hrest⟩ := ih hleft
      exact ⟨c :: woven, rest, rfl, .keep hw, hrest⟩

/-- The first character that is left began no sequence where it stood. -/
theorem StripsTo.first {cs left : List Char} (h : StripsTo cs left) :
    ∀ {c : Char} {rest : List Char}, left = c :: rest →
      ∃ before after, cs = before ++ c :: after ∧ ¬ BeginsEscape (c :: after) ∧ StripsTo after rest := by
  induction h with
  | nil =>
    intro c rest hleft
    cases hleft
  | @escape escape cs left _ _ ih =>
    intro c rest hleft
    obtain ⟨before, after, rfl, hbegins, hafter⟩ := ih hleft
    exact ⟨escape ++ before, after, (List.append_assoc _ _ _).symm, hbegins, hafter⟩
  | @keep c cs left hc h _ =>
    intro d rest hleft
    cases hleft
    exact ⟨[], cs, rfl, hc, h⟩

/-- Characters with sequences put in front of them are left, if none of them is an escape character. -/
theorem Woven.strip {cs woven : List Char} (h : Woven cs woven) (hplain : '\x1b' ∉ cs) (after : List Char) :
    stripEscapesAfter 0 (woven ++ after) = cs ++ stripEscapesAfter 0 after := by
  induction h with
  | nil => rfl
  | @keep c cs woven _ ih =>
    rw [List.mem_cons, not_or] at hplain
    have hbegins : ¬ BeginsEscape (c :: (woven ++ after)) := fun hb => hplain.1 (beginsEscape_iff.mp hb).1.symm
    rw [List.cons_append, strip_keep hbegins, ih hplain.2, List.cons_append]
  | insert he _ _ ih => rw [List.append_assoc, strip_escape he, ih hplain]

/-- Characters that something was put in front of: up to the first place nothing has changed, and there a sequence
begins. -/
theorem Woven.changed {cs woven : List Char} (h : Woven cs woven) (hne : woven ≠ cs) :
    ∃ same others tail, cs = same ++ others ∧ others ≠ [] ∧ woven = same ++ '\x1b' :: tail := by
  induction h with
  | nil => exact absurd rfl hne
  | @keep c cs woven _ ih =>
    obtain ⟨same, others, tail, rfl, hothers, rfl⟩ := ih fun heq => hne (heq ▸ rfl)
    exact ⟨c :: same, others, tail, rfl, hothers, rfl⟩
  | @insert escape cs woven he hcs _ _ =>
    obtain ⟨tail, rfl, -⟩ := he.eq_cons
    exact ⟨[], cs, tail ++ woven, rfl, hcs, rfl⟩

/-- A split sequence is none where it stands: it is broken off by the first sequence inside. -/
theorem not_beginsEscape_of_split {tail woven : List Char} (he : IsEscape ('\x1b' :: tail)) (hw : Woven tail woven)
    (hsplit : woven ≠ tail) (after : List Char) : ¬ BeginsEscape ('\x1b' :: (woven ++ after)) := by
  obtain ⟨same, others, more, rfl, hothers, rfl⟩ := hw.changed hsplit
  rw [List.append_assoc, List.cons_append, escape_bounds.beginsEscape_append]
  rintro ⟨escape, rest, hescape, h⟩
  obtain ⟨front, rfl, hfront⟩ := hescape.eq_cons
  rw [List.cons_append, List.cons.injEq] at h
  obtain ⟨-, rfl⟩ := h
  -- two sequences begin in the same way, so they are of the same length
  have hlong := escapeLength?_of_isEscape he []
  rw [List.append_nil, List.append_assoc, escapeLength?_of_isEscape hfront] at hlong
  have hpos := List.length_pos_iff.mpr hothers
  simp only [Option.some.injEq, List.length_append] at hlong
  omega

/-- **What stripping leaves.** An escape sequence is left exactly where one was split by others. -/
theorem hasEscape_strip_iff (cs : List Char) : HasEscape (stripEscapesAfter 0 cs) ↔ HasSplitEscape cs := by
  constructor
  · rintro ⟨before, escape, after, hescape, hleft⟩
    obtain ⟨tail, rfl, htail⟩ := hescape.eq_cons
    rw [List.append_assoc] at hleft
    obtain ⟨front, rest, hcs, -, hrest⟩ := (stripsTo_strip cs).split hleft
    obtain ⟨gone, kept, hkept, hbegins, hsecond⟩ := hrest.first (List.cons_append ..)
    obtain ⟨woven, last, rfl, hw, -⟩ := hsecond.split rfl
    have hsplit : woven ≠ tail := by
      rintro rfl
      exact hbegins ⟨_, last, hescape, rfl⟩
    refine ⟨front ++ gone, '\x1b' :: woven, last, .mk htail hw hsplit, ?_⟩
    rw [hcs, hkept]
    simp
  · rintro ⟨before, _, after, ⟨he, hw, hsplit⟩, rfl⟩
    rename_i tail woven
    have hplain := escape_bounds.not_mem_tail he
    refine ⟨stripEscapesAfter 0 before, '\x1b' :: tail, stripEscapesAfter 0 after, he, ?_⟩
    rw [List.append_assoc, List.cons_append, strip_append_escape,
      strip_keep (not_beginsEscape_of_split he hw hsplit after), hw.strip hplain]
    simp

/-! ## What is shown and what is logged -/

/-- Without a terminal, each line is printed as what stripping leaves of it. -/
theorem printLines_text (lines : List String) (screen : Screen) (hplain : screen.showsEscapes = false) :
    (lines.foldl Screen.printLine screen).text.toList =
      screen.text.toList ++ lines.flatMap fun line => stripEscapesAfter 0 line.toList ++ ['\n'] := by
  induction lines generalizing screen with
  | nil => simp
  | cons line lines ih =>
    rw [List.foldl_cons, ih (screen.printLine line) hplain]
    simp [Screen.printLine, Screen.put, hplain, stripEscapes]

/-- Lines that were printed without a terminal show an escape sequence if one was split in some line. -/
theorem printLines_hasEscape (lines : List String) :
    HasEscape (lines.foldl Screen.printLine ⟨false, ""⟩).text.toList ↔
      ∃ line ∈ lines, HasSplitEscape line.toList := by
  rw [printLines_text lines _ rfl, String.toList_empty, List.nil_append]
  induction lines with
  | nil => simp [not_hasEscape_nil]
  | cons line lines ih =>
    rw [List.flatMap_cons, List.append_assoc, List.cons_append, hasEscape_lines, List.nil_append, ih,
      hasEscape_strip_iff]
    simp only [List.mem_cons, exists_eq_or_imp]

/-- **When escape sequences are left.** A text that was stripped holds an escape sequence, and stripping it again makes a
difference, exactly if a sequence of the text was split by others. So do lines that were printed without a terminal, and
a record in the file of a logger. -/
theorem escapes_left_iff (text : String) (lines : List String) (g : Log) (path : String) (r : LogRecord) :
    (HasEscape (stripEscapes text).toList ↔ HasSplitEscape text.toList) ∧
      (stripEscapes (stripEscapes text) = stripEscapes text ↔ ¬ HasSplitEscape text.toList) ∧
      (HasEscape (lines.foldl Screen.printLine ⟨false, ""⟩).text.toList ↔
        ∃ line ∈ lines, HasSplitEscape line.toList) ∧
      ∃ line : String, (g.appendRecord path r).disk = g.disk.append path (line ++ "\n") ∧
        (HasEscape line.toList ↔
          HasSplitEscape (s!"{g.stamp} [{r.level.name}] {r.channel}: {g.textOf r}").toList) := by
  have hstripped : ∀ text : String, HasEscape (stripEscapes text).toList ↔ HasSplitEscape text.toList := by
    intro text
    rw [stripEscapes, String.toList_ofList, hasEscape_strip_iff]
  refine ⟨hstripped text, ?_, printLines_hasEscape lines, _, rfl, hstripped _⟩
  rw [← hstripped, ← strip_eq_self_iff, ← String.toList_inj, stripEscapes, String.toList_ofList]

/-- An escape character, the sequence without parameters, and the rest of a sequence that sets a colour: the colour is
left, so it is shown without a terminal, and stripping what is left makes a difference. -/
theorem escape_left :
    let text := "\x1b\x1b[m[31m"
    stripEscapes text = "\x1b[31m" ∧ HasEscape (stripEscapes text).toList ∧
      stripEscapes (stripEscapes text) ≠ stripEscapes text ∧
      ((⟨false, ""⟩ : Screen).printLine text).text = "\x1b[31m\n" := by
  have hparameters : ∀ c ∈ ['3', '1'], isEscapeParameter c = true :=
    List.forall_mem_cons.mpr ⟨by decide, List.forall_mem_singleton.mpr (by decide)⟩
  refine ⟨by decide +kernel, ?_, by decide +kernel, by decide +kernel⟩
  exact ⟨[], _, [], .mk ['3', '1'] 'm' hparameters (by decide), by decide +kernel⟩

end CommandConsole
