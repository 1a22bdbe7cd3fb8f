import CommandConsole.Text.Lines

/-!
# Pieces between the occurrences of an item

Splitting at an item and joining with it are inverse to each other (`intercalate_piecesAt` and `piecesAt_intercalate`), and
joined lists fall into the pieces of both (`piecesAt_append`).
-/

namespace CommandConsole

variable {α : Type} [DecidableEq α] {sep : α} {cs : List α} {pieces : List (List α)}

/-- There is always a piece. -/
theorem piecesAt_ne_nil (sep : α) (cs : List α) : piecesAt sep cs ≠ [] := by
  cases cs with
  | nil => exact List.cons_ne_nil _ _
  | cons c cs =>
    rw [piecesAt]
    split
    · exact List.cons_ne_nil _ _
    · cases piecesAt sep cs <;> exact List.cons_ne_nil _ _

/-- Without the item there is one piece. -/
theorem piecesAt_of_notMem (h : sep ∉ cs) : piecesAt sep cs = [cs] := by
  induction cs with
  | nil => rfl
  | cons c cs ih =>
    rw [List.mem_cons, not_or] at h
    rw [piecesAt, if_neg (Ne.symm h.1), ih h.2, consHead]

/-- Lists with the item between them have the pieces of both. -/
theorem piecesAt_append (cs ds : List α) :
    piecesAt sep (cs ++ sep :: ds) = piecesAt sep cs ++ piecesAt sep ds := by
  induction cs with
  | nil => simp [piecesAt]
  | cons c cs ih =>
    rw [List.cons_append, piecesAt, piecesAt, ih]
    split
    · rfl
    · obtain ⟨piece, rest, hpieces⟩ := List.exists_cons_of_ne_nil (piecesAt_ne_nil sep cs)
      rw [hpieces, List.cons_append, consHead, consHead, List.cons_append]

/-- The item is in no piece. -/
theorem not_mem_of_mem_piecesAt {piece : List α} (h : piece ∈ piecesAt sep cs) : sep ∉ piece := by
  induction cs generalizing piece with
  | nil =>
    rw [piecesAt, List.mem_singleton] at h
    simp [h]
  | cons c cs ih =>
    obtain ⟨first, rest, hpieces⟩ := List.exists_cons_of_ne_nil (piecesAt_ne_nil sep cs)
    rw [piecesAt] at h
    split at h
    · rcases List.mem_cons.mp h with rfl | h
      · exact List.not_mem_nil
      · exact ih h
    · rename_i hc
      rw [hpieces] at ih h
      rcases List.mem_cons.mp h with rfl | h
      · rw [List.mem_cons, not_or]
        exact ⟨Ne.symm hc, ih List.mem_cons_self⟩
      · exact ih (List.mem_cons_of_mem _ h)

/-- A piece has only items of the list. -/
theorem subset_of_mem_piecesAt {piece : List α} (h : piece ∈ piecesAt sep cs) : piece ⊆ cs := by
  induction cs generalizing piece with
  | nil =>
    rw [piecesAt, List.mem_singleton] at h
    exact h ▸ List.Subset.refl _
  | cons c cs ih =>
    obtain ⟨first, rest, hpieces⟩ := List.exists_cons_of_ne_nil (piecesAt_ne_nil sep cs)
    rw [hpieces] at ih
    rw [piecesAt, hpieces] at h
    split at h
    · rcases List.mem_cons.mp h with rfl | h
      · exact List.nil_subset _
      · exact List.subset_cons_of_subset _ (ih h)
    · rcases List.mem_cons.mp h with rfl | h
      · exact List.cons_subset_cons _ (ih List.mem_cons_self)
      · exact List.subset_cons_of_subset _ (ih (List.mem_cons_of_mem _ h))

/-- The pieces of a list whose items are replaced are the pieces of the list, with their items replaced. -/
theorem piecesAt_map {β : Type} [DecidableEq β] {f : α → β} {sep' : β} (sep : α) (hsep : ∀ c, f c = sep' ↔ c = sep)
    (cs : List α) : piecesAt sep' (cs.map f) = (piecesAt sep cs).map (·.map f) := by
  induction cs with
  | nil => rfl
  | cons c cs ih =>
    obtain ⟨first, rest, hpieces⟩ := List.exists_cons_of_ne_nil (piecesAt_ne_nil sep cs)
    rw [List.map_cons, piecesAt, piecesAt, ih, hpieces]
    simp only [hsep]
    split <;> rfl

/-- Pieces are found again when they have been joined. -/
theorem piecesAt_intercalate (hne : pieces ≠ []) (h : ∀ piece ∈ pieces, sep ∉ piece) :
    piecesAt sep ([sep].intercalate pieces) = pieces := by
  induction pieces with
  | nil => exact absurd rfl hne
  | cons piece rest ih =>
    rw [List.forall_mem_cons] at h
    cases rest with
    | nil =>
      rw [List.intercalate_singleton]
      exact piecesAt_of_notMem h.1
    | cons next rest =>
      rw [List.intercalate_cons_cons, List.append_assoc, List.singleton_append, piecesAt_append,
        piecesAt_of_notMem h.1, ih (List.cons_ne_nil _ _) h.2, List.singleton_append]

/-- Joined again, the pieces are the list. -/
theorem intercalate_piecesAt (sep : α) (cs : List α) : [sep].intercalate (piecesAt sep cs) = cs := by
  induction cs with
  | nil => rfl
  | cons c cs ih =>
    obtain ⟨piece, rest, hpieces⟩ := List.exists_cons_of_ne_nil (piecesAt_ne_nil sep cs)
    rw [hpieces] at ih
    rw [piecesAt, hpieces]
    split
    · rename_i hc
      rw [List.intercalate_cons_cons, ih, hc]
      rfl
    · cases rest with
      | nil => simpa [consHead] using ih
      | cons next rest =>
        rw [List.intercalate_cons_cons] at ih
        rw [consHead, List.intercalate_cons_cons, List.cons_append, List.cons_append, ih]

end CommandConsole
