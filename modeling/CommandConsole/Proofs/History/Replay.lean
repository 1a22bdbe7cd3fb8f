import CommandConsole.Proofs.History.Run
import CommandConsole.Proofs.Text.Words

/-!
# Adding lines to a history

Recording looks at the newest entry and makes room at the oldest one, line by line (`addLine`). Over all lines this
comes to the same as putting the lines behind the entries, dropping repetitions and keeping as many as fit
(`addLines_eq`), since making room never takes the newest entry away.
-/

namespace CommandConsole

variable {α : Type}

/-! ## Last items and repetitions -/

/-- A list that is cut has the same last item, if anything is left. -/
theorem takeLast_getLast? {n : Nat} (hn : 1 ≤ n) (xs : List α) : (takeLast n xs).getLast? = xs.getLast? := by
  rcases List.eq_nil_or_concat xs with rfl | ⟨ys, x, rfl⟩
  · rw [takeLast, List.drop_nil]
  · rw [List.concat_eq_append, List.getLast?_concat, takeLast, List.drop_append_of_le_length, List.getLast?_concat]
    rw [List.length_append, List.length_singleton]
    omega

/-- Cutting a list before something is put behind it makes no difference once the whole is cut. -/
theorem takeLast_takeLast_append (n : Nat) (xs ys : List α) :
    takeLast n (takeLast n xs ++ ys) = takeLast n (xs ++ ys) := by
  have hlength : (takeLast n xs).length = min n xs.length := by
    rw [takeLast, List.length_drop]
    omega
  have hdrop : takeLast n xs ++ ys = (xs ++ ys).drop (xs.length - n) := by
    rw [takeLast, List.drop_append_of_le_length (Nat.sub_le _ _)]
  calc takeLast n (takeLast n xs ++ ys)
      = (takeLast n xs ++ ys).drop (min n xs.length + ys.length - n) := by
        rw [takeLast, List.length_append, hlength]
    _ = (xs ++ ys).drop (xs.length - n + (min n xs.length + ys.length - n)) := by rw [hdrop, List.drop_drop]
    _ = takeLast n (xs ++ ys) := by
        rw [takeLast, List.length_append]
        congr 1
        omega

variable [DecidableEq α]

/-- Dropping repetitions does not change the last item. -/
theorem collapseRepeats_getLast? (xs : List α) : (collapseRepeats xs).getLast? = xs.getLast? := by
  fun_induction collapseRepeats xs with
  | case1 => rfl
  | case2 => rfl
  | case3 y rest ih => rw [ih, List.getLast?_cons_cons]
  | case4 x y rest _ ih =>
    rw [List.getLast?_cons, ih, List.getLast?_cons_cons, List.getLast?_cons]
    rfl

/-- One more item is dropped if it repeats the last one, and else put behind the others. -/
theorem collapseRepeats_append_singleton (xs : List α) (z : α) :
    collapseRepeats (xs ++ [z]) =
      if xs.getLast? = some z then collapseRepeats xs else collapseRepeats xs ++ [z] := by
  fun_induction collapseRepeats xs with
  | case1 => rfl
  | case2 x =>
    by_cases hx : x = z
    · simp [collapseRepeats, hx]
    · simp [collapseRepeats, hx]
  | case3 y rest ih =>
    rw [List.getLast?_cons_cons, ← ih]
    simp [collapseRepeats]
  | case4 x y rest hne ih =>
    rw [List.getLast?_cons_cons]
    simp only [List.cons_append] at ih ⊢
    rw [collapseRepeats, if_neg hne, ih]
    split <;> rfl

/-! ## Lines -/

/-- Entries with one more line, unless it repeats the newest of them; the oldest ones make room. -/
def addLine (capacity : Nat) (entries : List α) (line : α) : List α :=
  if entries.getLast? = some line then entries else takeLast capacity (entries ++ [line])

/-- Entries with more lines, one after the other. -/
def addLines (capacity : Nat) (entries lines : List α) : List α := lines.foldl (addLine capacity) entries

theorem addLines_append (capacity : Nat) (entries lines more : List α) :
    addLines capacity entries (lines ++ more) = addLines capacity (addLines capacity entries lines) more := by
  rw [addLines, addLines, addLines, List.foldl_append]

/-- Adding lines one after the other is putting them all behind the entries, dropping repetitions and keeping the last
ones. The induction is on the lines from the end: the line that is added last is compared with the last item of what the
others have left, which is the last item of all that was put together. -/
theorem addLines_eq {capacity : Nat} (hroom : 1 ≤ capacity) {entries : List String} (h : Tidy capacity entries)
    (lines : List String) :
    addLines capacity entries lines = takeLast capacity (collapseRepeats (entries ++ lines)) := by
  induction lines using List.reverseRecOn with
  | nil =>
    rw [List.append_nil, collapseRepeats_of_isChain h.apart, takeLast_of_length_le h.fits]
    rfl
  | append_singleton lines line ih =>
    have hlast : (takeLast capacity (collapseRepeats (entries ++ lines))).getLast? = (entries ++ lines).getLast? := by
      rw [takeLast_getLast? hroom, collapseRepeats_getLast?]
    rw [addLines_append, ih, ← List.append_assoc, collapseRepeats_append_singleton]
    show addLine capacity _ line = _
    rw [addLine, hlast]
    split
    · rfl
    · exact takeLast_takeLast_append _ _ _

namespace History

/-- Recording a line that is not blank adds it to the entries. -/
theorem record_entries (h : History) {line : String} (hline : allBlank line = false) :
    (h.record line).state.entries = addLine h.capacity h.entries line := by
  rw [record_state, addLine, admits, hline]
  by_cases hlast : h.entries.getLast? = some line
  · simp [hlast, resetNavigation]
  · simp [hlast, persist_state, push, resetNavigation]

/-- An entry after a line was recorded was there before, or is that line. -/
theorem mem_record_entries {h : History} {line e : String} (he : e ∈ (h.record line).state.entries) :
    e ∈ h.entries ∨ e = line := by
  rw [record_state] at he
  split at he
  · rw [persist_state] at he
    have hmem := (takeLast_suffix _ _).subset he
    rcases List.mem_append.mp hmem with hmem | hmem
    · exact Or.inl hmem
    · exact Or.inr (List.mem_singleton.mp hmem)
  · exact Or.inl he

/-- Recording does not change the capacity. -/
theorem record_capacity (h : History) (line : String) : (h.record line).state.capacity = h.capacity :=
  (perform_samePlace h (.record line)).capacity

end History

/-- What stripping leaves of a line is not blank, unless nothing is left. -/
theorem strip_notBlank {line : String} (h : (strip line).isEmpty = false) : allBlank (strip line) = false := by
  have hne : (strip line).toList ≠ [] := by
    intro hnil
    rw [String.toList_eq_nil_iff] at hnil
    rw [hnil] at h
    cases h
  rw [strip, String.toList_ofList, stripBlanks, ne_eq, List.reverse_eq_nil_iff] at hne
  rw [allBlank, List.all_eq_false]
  refine ⟨_, ?_, by simpa using List.head_dropWhile_not isBlank hne⟩
  rw [strip, String.toList_ofList, stripBlanks, List.mem_reverse]
  exact List.head_mem hne

end CommandConsole
