import CommandConsole.Line
import CommandConsole.Proofs.Text.Spaced
import CommandConsole.Proofs.Text.Words

/-!
# Tokens of a line that is being typed

The tokens of a line that is being typed are its words, and one that is empty if the end of the line opens a token
(`Line.OpensToken`, `Line.splitForCompletion_eq_iff`). So all of several tokens but the last one are words, and with a
word in place of the last one they make a line that consists of just these words (`spaced_replaced`).

Joining and splitting are inverse to each other: the lists that are found again when they have been joined are those that
lines are split into (`joined_tokens_found_again`). The blank that joining puts in front of an empty token at the end is
what opens this token again.
-/

namespace CommandConsole

/-- The words of a text are words. -/
theorem isWord_of_mem_words {line w : String} (h : w ∈ words line) : IsWord w := by
  obtain ⟨run, hrun, rfl⟩ := List.mem_map.mp h
  obtain ⟨hne, hunbroken⟩ := mem_wordRuns _ run hrun
  exact ⟨fun hempty => hne (by simpa using congrArg String.toList hempty), by rwa [String.toList_ofList]⟩

/-- Blanks in front of a text that consists of words. -/
theorem Spaced.blanks_append {gap s : String} {ws : List String} (hgap : allBlank gap = true) (h : Spaced ws s) :
    Spaced ws (gap ++ s) := by
  rw [← words_eq_iff, words, String.toList_append, wordRuns_blanks_append (List.all_eq_true.mp hgap)]
  exact h.words_eq

/-- Words with single blanks between them. -/
theorem spaced_joinTokens {ws : List String} (h : ∀ w ∈ ws, IsWord w) : Spaced ws (Line.joinTokens ws) := by
  induction ws with
  | nil => exact .blank rfl
  | cons w ws ih =>
    rw [List.forall_mem_cons] at h
    cases ws with
    | nil =>
      have hword : Spaced [w] ("" ++ w ++ "") := .word rfl h.1 (by simp) (.blank rfl)
      simpa [Line.joinTokens] using hword
    | cons v ws =>
      have hrest : Spaced (v :: ws) (" " ++ Line.joinTokens (v :: ws)) := (ih h.2).blanks_append rfl
      have hword : Spaced (w :: v :: ws) ("" ++ w ++ (" " ++ Line.joinTokens (v :: ws))) :=
        .word rfl h.1 (by simp [show isBlank ' ' = true from rfl]) hrest
      rw [Line.joinTokens, String.intercalate_cons_of_ne_nil (List.cons_ne_nil _ _), ← Line.joinTokens]
      simpa [String.append_assoc] using hword

/-! ## The end of a line -/

/-- A line ends in a blank if this is its last character. -/
theorem Line.endsBlank_iff {line : String} :
    endsBlank line = true ↔ ∃ (body : String) (c : Char), isBlank c = true ∧ line = body.push c := by
  unfold endsBlank
  constructor
  · intro h
    split at h
    · cases h
    · rename_i c hlast
      obtain ⟨body, hbody⟩ := List.getLast?_eq_some_iff.mp hlast
      exact ⟨String.ofList body, c, h, by rw [← String.toList_inj, hbody, String.toList_push, String.toList_ofList]⟩
  · rintro ⟨body, c, hc, rfl⟩
    simpa using hc

/-- A line ends as the last part of it does. -/
theorem Line.endsBlank_append (front : String) {back : String} (h : back ≠ "") :
    endsBlank (front ++ back) = endsBlank back := by
  have hne : back.toList ≠ [] := fun hnil => h (String.toList_eq_nil_iff.mp hnil)
  rw [endsBlank, endsBlank, String.toList_append, List.getLast?_append_of_ne_nil _ hne]

/-- A line without blanks does not end in one. -/
theorem Line.endsBlank_of_unbroken {line : String} (h : ∀ c ∈ line.toList, isBlank c = false) :
    endsBlank line = false := by
  unfold endsBlank
  split
  · rfl
  · rename_i c hlast
    exact h c (List.mem_of_getLast? hlast)

/-- The end of a line opens a token: the line is empty, blank, or ends in a blank. -/
def Line.OpensToken (line : String) : Prop :=
  line = "" ∨ allBlank line = true ∨ ∃ (body : String) (c : Char), isBlank c = true ∧ line = body.push c

/-- The end of a line opens a token exactly if there is no word or the line ends in a blank. -/
theorem Line.opensToken_iff {line : String} : OpensToken line ↔ words line = [] ∨ endsBlank line = true := by
  rw [OpensToken, ← endsBlank_iff, ← words_eq_nil, or_iff_right_of_imp]
  rintro rfl
  exact Or.inl rfl

/-! ## Splitting -/

variable {line name typed : String} {preceding tokens : List String}

/-- Where the end of a line opens a token, an empty one stands behind the words. -/
theorem Line.splitForCompletion_of_opensToken (h : OpensToken line) : splitForCompletion line = words line ++ [""] := by
  rcases opensToken_iff.mp h with hnone | hend
  · cases hend : endsBlank line <;> simp [splitForCompletion, hnone, hend]
  · cases hwords : words line <;> simp [splitForCompletion, hend, hwords]

/-- Elsewhere the tokens are the words. -/
theorem Line.splitForCompletion_of_not_opensToken (h : ¬ OpensToken line) : splitForCompletion line = words line := by
  rw [opensToken_iff, not_or] at h
  obtain ⟨w, ws, hwords⟩ := List.exists_cons_of_ne_nil h.1
  simp [splitForCompletion, hwords, h.2]

/-- So an empty token stands behind the words exactly if the end of the line opens one. -/
theorem Line.splitForCompletion_eq_iff (line : String) :
    (splitForCompletion line = words line ++ [""] ↔ OpensToken line) ∧
      (splitForCompletion line = words line ↔ ¬ OpensToken line) := by
  by_cases hopen : OpensToken line
  · simp [splitForCompletion_of_opensToken hopen, hopen]
  · simp [splitForCompletion_of_not_opensToken hopen, hopen]

/-- A line that is being typed has no word and is one empty token, or its first token is its first word. -/
theorem splitForCompletion_cases (line : String) :
    Line.splitForCompletion line = [""] ∨
      ∃ w rest, w ∈ words line ∧ Line.splitForCompletion line = w :: rest := by
  cases hwords : words line with
  | nil =>
    left
    rw [Line.splitForCompletion_of_opensToken (Line.opensToken_iff.mpr (Or.inl hwords)), hwords, List.nil_append]
  | cons w rest =>
    right
    by_cases hopen : Line.OpensToken line
    · refine ⟨w, rest ++ [""], List.mem_cons_self, ?_⟩
      rw [Line.splitForCompletion_of_opensToken hopen, hwords, List.cons_append]
    · refine ⟨w, rest, List.mem_cons_self, ?_⟩
      rw [Line.splitForCompletion_of_not_opensToken hopen, hwords]

/-- The words of a line are its tokens but the empty one. -/
theorem Line.filter_splitForCompletion (line : String) :
    (splitForCompletion line).filter (· ≠ "") = words line := by
  have hwords : (words line).filter (· ≠ "") = words line :=
    List.filter_eq_self.mpr fun w hw => by simpa using (isWord_of_mem_words hw).filled
  by_cases hopen : OpensToken line
  · rw [splitForCompletion_of_opensToken hopen, List.filter_append, hwords]
    simp
  · rw [splitForCompletion_of_not_opensToken hopen, hwords]

/-- Of several tokens the last one is empty exactly if the line ends in a blank, and the words of the line are the tokens
without an empty one at the end. -/
theorem words_of_splitForCompletion (h : Line.splitForCompletion line = name :: (preceding ++ [typed])) :
    (typed = "" ↔ Line.endsBlank line = true) ∧
      words line = name :: preceding ++ (if Line.endsBlank line then [] else [typed]) := by
  by_cases hopen : Line.OpensToken line
  · rw [Line.splitForCompletion_of_opensToken hopen, ← List.cons_append] at h
    obtain ⟨hwords, hlast⟩ := List.append_inj' h rfl
    have hend : Line.endsBlank line = true := (Line.opensToken_iff.mp hopen).resolve_left (by simp [hwords])
    simp [hwords, hend, (List.singleton_inj.mp hlast).symm]
  · have hend : Line.endsBlank line = false := by
      rw [Line.opensToken_iff, not_or, Bool.not_eq_true] at hopen
      exact hopen.2
    rw [Line.splitForCompletion_of_not_opensToken hopen] at h
    have hfilled : typed ≠ "" := (isWord_of_mem_words (h ▸ by simp : typed ∈ words line)).filled
    simp [h, hend, hfilled]

/-- All of several tokens but the last one are words. -/
theorem isWord_of_splitForCompletion (h : Line.splitForCompletion line = name :: (preceding ++ [typed])) :
    ∀ w ∈ name :: preceding, IsWord w := by
  intro w hw
  have hmem : w ∈ words line := by
    rw [(words_of_splitForCompletion h).2]
    exact List.mem_append_left _ hw
  exact isWord_of_mem_words hmem

/-- With a word in place of the last one, several tokens make a line that consists of these words. -/
theorem spaced_replaced (h : Line.splitForCompletion line = name :: (preceding ++ [typed])) {candidate : String}
    (hword : IsWord candidate) :
    Spaced (name :: (preceding ++ [candidate]))
      (Line.joinTokens ((Line.splitForCompletion line).dropLast ++ [candidate])) := by
  have htokens : (Line.splitForCompletion line).dropLast ++ [candidate] = name :: (preceding ++ [candidate]) := by
    rw [h, ← List.cons_append, List.dropLast_concat, List.cons_append]
  rw [htokens]
  apply spaced_joinTokens
  rw [← List.cons_append]
  intro w hw
  rcases List.mem_append.mp hw with hw | hw
  · exact isWord_of_splitForCompletion h w hw
  · exact List.mem_singleton.mp hw ▸ hword

/-! ## Splitting what has been joined -/

/-- Tokens are words, and behind them one more that is being typed: it has no blank in it, but it may be empty. -/
def Line.AreTokens (tokens : List String) : Prop :=
  ∃ preceding typed, tokens = preceding ++ [typed] ∧ (∀ w ∈ preceding, IsWord w) ∧
    ∀ c ∈ typed.toList, isBlank c = false

/-- Every line splits into tokens. -/
theorem Line.areTokens_splitForCompletion (line : String) : AreTokens (splitForCompletion line) := by
  have hword : ∀ w ∈ words line, IsWord w := fun _ => isWord_of_mem_words
  by_cases hopen : OpensToken line
  · exact ⟨words line, "", splitForCompletion_of_opensToken hopen, hword, by simp⟩
  · have hsome : words line ≠ [] := fun hnone => hopen (opensToken_iff.mpr (Or.inl hnone))
    rw [splitForCompletion_of_not_opensToken hopen]
    refine ⟨(words line).dropLast, (words line).getLast hsome, ?_, ?_, ?_⟩
    · rw [List.dropLast_concat_getLast]
    · exact fun w hw => hword w (List.dropLast_subset _ hw)
    · exact (hword _ (List.getLast_mem hsome)).unbroken

/-- A blank stands in front of the last of several tokens. -/
theorem Line.joinTokens_concat (h : preceding ≠ []) (typed : String) :
    joinTokens (preceding ++ [typed]) = joinTokens preceding ++ " " ++ typed := by
  rw [joinTokens, String.intercalate_append_of_ne_nil h (List.cons_ne_nil _ _), String.intercalate_singleton, joinTokens]

/-- Joined tokens end as the last one does. -/
theorem Line.endsBlank_joinTokens (preceding : List String) (h : typed ≠ "") :
    endsBlank (joinTokens (preceding ++ [typed])) = endsBlank typed := by
  cases preceding with
  | nil => rw [List.nil_append, joinTokens, String.intercalate_singleton]
  | cons w ws => rw [joinTokens_concat (List.cons_ne_nil w ws), endsBlank_append _ h]

/-- Words are found again when an empty token has been joined to them. -/
theorem Line.splitForCompletion_joinTokens_empty (h : ∀ w ∈ preceding, IsWord w) :
    splitForCompletion (joinTokens (preceding ++ [""])) = preceding ++ [""] := by
  cases preceding with
  | nil => rfl
  | cons w ws =>
    have hline : joinTokens (w :: ws ++ [""]) = joinTokens (w :: ws) ++ " " := by
      rw [joinTokens_concat (List.cons_ne_nil w ws), String.append_empty]
    have hend : endsBlank (joinTokens (w :: ws) ++ " ") = true := endsBlank_append _ (by decide)
    rw [hline, splitForCompletion_of_opensToken (opensToken_iff.mpr (Or.inr hend)), words_append_blanks _ rfl,
      (spaced_joinTokens h).words_eq]

/-- Words are found again when they have been joined. -/
theorem Line.splitForCompletion_joinTokens_words (h : ∀ w ∈ preceding ++ [typed], IsWord w) :
    splitForCompletion (joinTokens (preceding ++ [typed])) = preceding ++ [typed] := by
  have hwords : words (joinTokens (preceding ++ [typed])) = preceding ++ [typed] := (spaced_joinTokens h).words_eq
  have htyped : IsWord typed := h typed (by simp)
  have hclosed : ¬ OpensToken (joinTokens (preceding ++ [typed])) := by
    rw [opensToken_iff, hwords, endsBlank_joinTokens _ htyped.filled, endsBlank_of_unbroken htyped.unbroken]
    simp
  rw [splitForCompletion_of_not_opensToken hclosed, hwords]

/-- Tokens are found again when they have been joined. -/
theorem Line.splitForCompletion_joinTokens (h : AreTokens tokens) : splitForCompletion (joinTokens tokens) = tokens := by
  obtain ⟨preceding, typed, rfl, hpreceding, htyped⟩ := h
  by_cases hempty : typed = ""
  · rw [hempty]
    exact splitForCompletion_joinTokens_empty hpreceding
  · have hlast : ∀ w ∈ [typed], IsWord w := List.forall_mem_singleton.mpr ⟨hempty, htyped⟩
    exact splitForCompletion_joinTokens_words (List.forall_mem_append.mpr ⟨hpreceding, hlast⟩)

/-- Joining tokens and splitting lines are inverse to each other. A list is found again when it has been joined exactly if
it is one of tokens, and every line splits into tokens: into its words, and an empty token behind them exactly if the end
of the line opens one. So a line that is joined from the tokens of another one has the same tokens and the same words. -/
theorem joined_tokens_found_again (tokens : List String) (line : String) :
    (Line.splitForCompletion (Line.joinTokens tokens) = tokens ↔ Line.AreTokens tokens) ∧
      Line.AreTokens (Line.splitForCompletion line) ∧
      (Line.splitForCompletion line = words line ++ [""] ↔ Line.OpensToken line) ∧
      (Line.splitForCompletion line = words line ↔ ¬ Line.OpensToken line) ∧
      Line.splitForCompletion (Line.joinTokens (Line.splitForCompletion line)) = Line.splitForCompletion line ∧
      words (Line.joinTokens (Line.splitForCompletion line)) = words line := by
  have htokens : ∀ line, Line.AreTokens (Line.splitForCompletion line) := Line.areTokens_splitForCompletion
  have hagain : Line.splitForCompletion (Line.joinTokens (Line.splitForCompletion line)) = Line.splitForCompletion line :=
    Line.splitForCompletion_joinTokens (htokens line)
  obtain ⟨hopen, hclosed⟩ := Line.splitForCompletion_eq_iff line
  refine ⟨⟨fun h => h ▸ htokens _, Line.splitForCompletion_joinTokens⟩, htokens line, hopen, hclosed, hagain, ?_⟩
  rw [← Line.filter_splitForCompletion, hagain, Line.filter_splitForCompletion]

end CommandConsole
