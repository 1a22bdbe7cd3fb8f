import Mathlib.Data.List.Chain
import CommandConsole.History.Store
import CommandConsole.Proofs.Json.RoundTrip

/-!
# The entries of a history

A list is `Tidy` for a capacity when it could be the entries of a history: no entry repeats the one before it, none is
empty, and there are no more of them than fit. Recording keeps a list tidy (`Tidy.push`), reading a stored value gives a
tidy list (`load_tidy`), and a tidy list that was written reads back as itself (`load_encodeStrings`).
-/

namespace CommandConsole

/-! ## The last items of a list -/

theorem takeLast_suffix {α : Type} (n : Nat) (xs : List α) : takeLast n xs <:+ xs :=
  List.drop_suffix _ _

theorem takeLast_length_le {α : Type} (n : Nat) (xs : List α) : (takeLast n xs).length ≤ n := by
  rw [takeLast, List.length_drop]
  omega

/-- A list that fits is not cut. -/
theorem takeLast_of_length_le {α : Type} {n : Nat} {xs : List α} (h : xs.length ≤ n) : takeLast n xs = xs := by
  rw [takeLast, Nat.sub_eq_zero_of_le h, List.drop_zero]

/-- Of the last items, the last few are the last few of all. -/
theorem takeLast_takeLast {α : Type} {m n : Nat} (h : m ≤ n) (xs : List α) :
    takeLast m (takeLast n xs) = takeLast m xs := by
  simp only [takeLast, List.drop_drop, List.length_drop]
  congr 1
  omega

/-! ## Repetitions -/

section

variable {α : Type} [DecidableEq α]

/-- Dropping repetitions does not change the first item. -/
theorem collapseRepeats_head? (xs : List α) : (collapseRepeats xs).head? = xs.head? := by
  fun_induction collapseRepeats xs with
  | case1 => rfl
  | case2 => rfl
  | case3 y rest ih => rw [ih]; rfl
  | case4 => rfl

/-- Without repetitions, neighbours differ. -/
theorem collapseRepeats_isChain (xs : List α) : (collapseRepeats xs).IsChain (· ≠ ·) := by
  fun_induction collapseRepeats xs with
  | case1 => exact .nil
  | case2 x => exact .singleton x
  | case3 y rest ih => exact ih
  | case4 x y rest hne ih =>
    rw [List.isChain_cons]
    refine ⟨fun z hz => ?_, ih⟩
    rw [collapseRepeats_head?] at hz
    simp only [List.head?_cons, Option.mem_some_iff] at hz
    rwa [← hz]

/-- Dropping repetitions adds nothing. -/
theorem collapseRepeats_sublist (xs : List α) : (collapseRepeats xs).Sublist xs := by
  fun_induction collapseRepeats xs with
  | case1 => exact .slnil
  | case2 x => exact List.Sublist.refl _
  | case3 y rest ih => exact ih.cons y
  | case4 x y rest _ ih => exact ih.cons_cons x

/-- A list whose neighbours differ has no repetitions to drop. -/
theorem collapseRepeats_of_isChain {xs : List α} (h : xs.IsChain (· ≠ ·)) : collapseRepeats xs = xs := by
  fun_induction collapseRepeats xs with
  | case1 => rfl
  | case2 => rfl
  | case3 y rest => exact absurd rfl h.rel
  | case4 x y rest _ ih => rw [ih h.of_cons]

end

/-! ## Tidy lists -/

/-- What the entries of a history of some capacity are like. -/
structure Tidy (capacity : Nat) (entries : List String) : Prop where
  apart : entries.IsChain (· ≠ ·)
  filled : ∀ e ∈ entries, e ≠ ""
  fits : entries.length ≤ capacity

theorem Tidy.nil (capacity : Nat) : Tidy capacity [] :=
  ⟨.nil, by simp, Nat.zero_le _⟩

/-- The last items of a list whose neighbours differ and which holds no empty item. -/
theorem tidy_takeLast (capacity : Nat) {xs : List String} (ha : xs.IsChain (· ≠ ·)) (hf : ∀ e ∈ xs, e ≠ "") :
    Tidy capacity (takeLast capacity xs) :=
  ⟨ha.suffix (takeLast_suffix _ _), fun e he => hf e ((takeLast_suffix _ _).subset he), takeLast_length_le _ _⟩

/-- An empty text is blank, so a line that is not blank is not empty. -/
theorem ne_empty_of_not_allBlank {line : String} (h : allBlank line = false) : line ≠ "" := by
  rintro rfl
  exact absurd h (by simp [allBlank])

/-- A further entry that is not empty and not the newest one again, with the oldest ones making room. -/
theorem Tidy.push {capacity : Nat} {entries : List String} {line : String} (h : Tidy capacity entries)
    (hline : line ≠ "") (hnew : entries.getLast? ≠ some line) :
    Tidy capacity (takeLast capacity (entries ++ [line])) := by
  apply tidy_takeLast
  · rw [List.isChain_append]
    refine ⟨h.apart, .singleton line, fun x hx y hy => ?_⟩
    simp only [List.head?_cons, Option.mem_some_iff] at hy
    rintro rfl
    exact hnew (hy ▸ hx)
  · intro e he
    rcases List.mem_append.mp he with he | he
    · exact h.filled e he
    · rw [List.mem_singleton.mp he]
      exact hline

namespace History

/-- What is admitted from a stored list is tidy, whatever the list holds. -/
theorem admitted_tidy (capacity : Nat) (items : List String) : Tidy capacity (admitted capacity items) := by
  apply tidy_takeLast _ (collapseRepeats_isChain _)
  intro e he
  have hmem := (collapseRepeats_sublist _).subset he
  simpa using (List.mem_filter.mp hmem).2

/-- A tidy list is admitted as it is, and a smaller history admits its last entries. -/
theorem admitted_of_tidy {capacity : Nat} {entries : List String} (h : Tidy capacity entries) (smaller : Nat) :
    admitted smaller entries = takeLast smaller entries := by
  have hfilter : entries.filter (· ≠ "") = entries := by
    rw [List.filter_eq_self]
    intro e he
    simpa using h.filled e he
  rw [admitted, hfilter, collapseRepeats_of_isChain h.apart]

/-! ## Reading a stored value -/

/-- A stored value stands for a list of texts, of which a history admits what fits, unless it is a text that nests too
deep; neither depends on the capacity. -/
theorem load_cases (v : Value) :
    (∃ items notes, ∀ capacity, load capacity v = .ok (admitted capacity items, notes)) ∨
      ∃ text innermost, v.text? = some text ∧ Json.parse text = .error (.tooDeep innermost) ∧
        ∀ capacity, load capacity v = .error (Json.tooDeepFault innermost) := by
  have hnil : ∀ capacity, admitted capacity [] = [] := fun _ => List.drop_nil
  by_cases htrue : v.truthy = true
  · cases htext : v.text? with
    | some text =>
      cases hparse : Json.parse text with
      | error e =>
        cases e with
        | tooDeep innermost =>
          exact Or.inr ⟨text, innermost, rfl, hparse, fun _ => by simp [load, htrue, htext, hparse]⟩
        | malformed => exact Or.inl ⟨[], _, fun _ => by simp [load, htrue, htext, hparse, hnil]; rfl⟩
        | tooManyDigits n => exact Or.inl ⟨[], _, fun _ => by simp [load, htrue, htext, hparse, hnil]; rfl⟩
      | ok loaded =>
        cases hitems : loaded.strings? with
        | none => exact Or.inl ⟨[], _, fun _ => by simp [load, htrue, htext, hparse, hitems, hnil]; rfl⟩
        | some items => exact Or.inl ⟨items, [], fun _ => by simp [load, htrue, htext, hparse, hitems]⟩
    | none => exact Or.inl ⟨[], _, fun _ => by simp [load, htrue, htext, hnil]; rfl⟩
  · exact Or.inl ⟨[], [], fun _ => by simp [load, htrue, hnil]⟩

/-- Whatever value is stored, the entries that it stands for are tidy. -/
theorem load_tidy {capacity : Nat} {v : Value} {entries : List String} {notes : List LogRecord}
    (h : load capacity v = .ok (entries, notes)) : Tidy capacity entries := by
  rcases load_cases v with ⟨items, notes', hload⟩ | ⟨text, innermost, _, _, hload⟩
  · rw [hload capacity] at h
    cases h
    exact admitted_tidy capacity items
  · rw [hload capacity] at h
    cases h

/-- A smaller history reads the last entries from the same stored value. -/
theorem load_smaller {capacity smaller : Nat} (hle : smaller ≤ capacity) {v : Value} {entries : List String}
    {notes : List LogRecord} (h : load capacity v = .ok (entries, notes)) :
    load smaller v = .ok (takeLast smaller entries, notes) := by
  rcases load_cases v with ⟨items, notes', hload⟩ | ⟨text, innermost, _, _, hload⟩
  · rw [hload capacity] at h
    cases h
    rw [hload smaller, admitted, admitted, takeLast_takeLast hle]
  · rw [hload capacity] at h
    cases h

/-- Reading a value fails only if it is a text that nests too deep. -/
theorem load_error {capacity : Nat} {v : Value} {f : Fault} (h : load capacity v = .error f) :
    ∃ text innermost, v.text? = some text ∧ Json.parse text = .error (.tooDeep innermost) ∧
      f = Json.tooDeepFault innermost := by
  rcases load_cases v with ⟨items, notes', hload⟩ | ⟨text, innermost, hv, hparse, hload⟩
  · rw [hload capacity] at h
    cases h
  · rw [hload capacity] at h
    cases h
    exact ⟨text, innermost, hv, hparse, rfl⟩

/-- The texts of a list of texts are these texts. -/
theorem texts?_list_string (texts : List String) :
    (Value.list (texts.map .string)).texts? = some (texts.map pointsOf) := by
  rw [Value.texts?]
  induction texts with
  | nil => rfl
  | cons t texts ih =>
    rw [List.map_cons, List.mapM_cons, ih]
    rfl

theorem strings?_list_string (texts : List String) : (Value.list (texts.map .string)).strings? = some texts := by
  rw [Value.strings?, texts?_list_string]
  simp [Function.comp_def]

/-- A written list of texts is read as what is admitted of it. -/
theorem load_encodeStrings (capacity : Nat) (texts : List String) :
    load capacity (.string (Json.encodeStrings texts)) = .ok (admitted capacity texts, []) := by
  have htrue : (Value.string (Json.encodeStrings texts)).truthy = true := by
    simp [Value.truthy, Json.encodeStrings, Json.encodeTexts]
  simp only [load, htrue, Bool.not_true, Bool.false_eq_true, if_false, Value.text?, Json.parse_encodeStrings,
    strings?_list_string]

end History

end CommandConsole
