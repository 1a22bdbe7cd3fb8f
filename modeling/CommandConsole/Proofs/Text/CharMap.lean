import CommandConsole.Text.CodePoints

/-!
# Mappings that are settled, and sets that are apart

Two sets of code points are apart if no range of one meets one of the other (`CodePoints.apart`). A mapping from
characters to texts is settled if it leaves every character that it leads to (`CharMap.Settled`). What its tables must be
like for that can be checked: its texts consist of characters that it leaves, and its shifts pass over all that they lead
to. Then mapping twice is mapping once (`Settled.flatMap_apply_twice`).
-/

namespace CommandConsole

/-- What is found under a key is in the table. -/
theorem mem_of_lookup {α β : Type} [BEq α] [LawfulBEq α] {table : List (α × β)} {key : α} {b : β}
    (h : table.lookup key = some b) : (key, b) ∈ table := by
  obtain ⟨before, after, hsplit, -⟩ := List.lookup_eq_some_iff.mp h
  rw [hsplit]
  exact List.mem_append_right _ List.mem_cons_self

/-! ## Sets of code points -/

/-- No range of one set meets a range of the other. -/
def CodePoints.apart (a b : CodePoints) : Bool := a.all fun r => b.all fun s => r.2.blt s.1 || s.2.blt r.1

/-- No character belongs to two sets that are apart. -/
theorem CodePoints.has_of_apart {a b : CodePoints} (h : a.apart b = true) {c : Char} (hc : a.has c = true) :
    b.has c = false := by
  obtain ⟨r, hr, hcovers⟩ := List.any_eq_true.mp hc
  rw [CodePoints.has, List.any_eq_false]
  intro s hs
  have hranges := List.all_eq_true.mp (List.all_eq_true.mp h r hr) s hs
  simp only [Bool.or_eq_true, Nat.blt_eq] at hranges
  simp only [Bool.and_eq_true, decide_eq_true_eq] at hcovers ⊢
  omega

/-! ## Shifts -/

/-- The image of a shift lies between its target and the end of its run. -/
theorem image?_bounds {s : Shift} {n m : Nat} (h : s.image? n = some m) :
    s.target ≤ m ∧ m ≤ s.target + (s.last - s.first) := by
  unfold Shift.image? at h
  split at h
  · cases h
    omega
  · cases h

/-- A shift passes over what another one leads to: that lies outside of its run, or falls between its steps. -/
def Shift.passes (t s : Shift) : Bool :=
  (s.target + (s.last - s.first)).blt t.first || t.last.blt s.target ||
    (t.stride.beq 2 && (s.stride.beq 2 || s.first.beq s.last) && ((s.target + t.first) % 2).beq 1)

/-- What a shift leads to, a shift that passes over it takes no further. -/
theorem image?_of_passes {s t : Shift} (hpasses : t.passes s = true) {n m : Nat} (h : s.image? n = some m) :
    t.image? m = none := by
  simp only [Shift.passes, Bool.or_eq_true, Bool.and_eq_true, Nat.blt_eq, Nat.beq_eq] at hpasses
  unfold Shift.image? at h ⊢
  split at h
  · rename_i hn
    cases h
    rw [if_neg]
    rintro ⟨hlow, hhigh, hstep⟩
    rcases hpasses with (hbelow | habove) | ⟨⟨ht, hs | hs⟩, hodd⟩
    · omega
    · omega
    · rw [ht] at hstep
      rw [hs] at hn
      omega
    · rw [ht] at hstep
      omega
  · cases h

/-- The shift of a single code point, to itself. -/
def Shift.only (n : Nat) : Shift := ⟨n, n, 1, n⟩

/-- A shift that passes over an image does not take it further; the shift of a single code point has it for an image. -/
theorem ne_of_only_passes {s : Shift} {k : Nat} (hpasses : (Shift.only k).passes s = true) {n m : Nat}
    (h : s.image? n = some m) : m ≠ k := by
  rintro rfl
  have hnone := image?_of_passes hpasses h
  simp [Shift.image?, Shift.only] at hnone

/-! ## Mappings -/

namespace CharMap

variable {m : CharMap}

/-- A character without a text of its own, and outside of all shifts, stays as it is. -/
theorem apply_uncovered {c : Char} (hown : ∀ e ∈ m.expansions, e.1 ≠ c.toNat)
    (hshift : ∀ s ∈ m.shifts, s.image? c.toNat = none) : m.apply c = [c] := by
  have hlookup : m.expansions.lookup c.toNat = none := by
    rw [List.lookup_eq_none_iff]
    intro e he
    rw [bne_iff_ne]
    exact Ne.symm (hown e he)
  have hfind : m.shifts.findSome? (·.image? c.toNat) = none := by
    rw [List.findSome?_eq_none_iff]
    exact hshift
  rw [apply, hlookup, hfind]

/-- A mapping that leaves every character that it leads to, as its tables show. -/
structure Settled (m : CharMap) : Prop where
  texts : (m.expansions.all fun e => e.2.all fun n => m.apply (Char.ofNat n) == [Char.ofNat n]) = true
  shifts : (m.shifts.all fun s => m.shifts.all (·.passes s)) = true
  own : (m.shifts.all fun s => m.expansions.all fun e => (Shift.only e.1).passes s) = true
  /-- The null character stands for what is no code point. -/
  null : (m.apply (Char.ofNat 0) == [Char.ofNat 0]) = true

/-- What a settled mapping gives for a character, it leaves. -/
theorem Settled.apply_fixed (hm : m.Settled) (c : Char) : ∀ d ∈ m.apply c, m.apply d = [d] := by
  intro d hd
  cases hlookup : m.expansions.lookup c.toNat with
  | some text =>
    rw [apply, hlookup] at hd
    obtain ⟨n, hn, rfl⟩ := List.mem_map.mp hd
    have hsettled := List.all_eq_true.mp (List.all_eq_true.mp hm.texts _ (mem_of_lookup hlookup)) n hn
    exact beq_iff_eq.mp hsettled
  | none =>
    cases hfind : m.shifts.findSome? (·.image? c.toNat) with
    | none =>
      have happly : m.apply c = [c] := by rw [apply, hlookup, hfind]
      rw [happly, List.mem_singleton] at hd
      rw [hd, happly]
    | some n =>
      rw [apply, hlookup, hfind] at hd
      rw [List.mem_singleton.mp hd]
      obtain ⟨s, hs, himage⟩ := List.exists_of_findSome?_eq_some hfind
      by_cases hvalid : n.isValidChar
      · have hcode : (Char.ofNat n).toNat = n := by
          rw [Char.ofNat, dif_pos hvalid]
          rfl
        apply apply_uncovered
        · intro e he
          rw [hcode]
          exact Ne.symm (ne_of_only_passes (List.all_eq_true.mp (List.all_eq_true.mp hm.own s hs) e he) himage)
        · intro t ht
          rw [hcode]
          exact image?_of_passes (List.all_eq_true.mp (List.all_eq_true.mp hm.shifts s hs) t ht) himage
      · have hnull : Char.ofNat n = Char.ofNat 0 := by
          rw [Char.ofNat, dif_neg hvalid]
          rfl
        rw [hnull]
        exact beq_iff_eq.mp hm.null

/-- A text of characters that a mapping leaves stays as it is. -/
theorem flatMap_apply_eq_self {cs : List Char} (h : ∀ c ∈ cs, m.apply c = [c]) : cs.flatMap m.apply = cs := by
  induction cs with
  | nil => rfl
  | cons c cs ih =>
    rw [List.forall_mem_cons] at h
    rw [List.flatMap_cons, h.1, ih h.2]
    rfl

/-- Mapping a text twice is mapping it once, if the mapping is settled. -/
theorem Settled.flatMap_apply_twice (hm : m.Settled) (cs : List Char) :
    (cs.flatMap m.apply).flatMap m.apply = cs.flatMap m.apply := by
  apply flatMap_apply_eq_self
  intro d hd
  obtain ⟨c, -, hd⟩ := List.mem_flatMap.mp hd
  exact hm.apply_fixed c d hd

end CharMap

end CommandConsole
