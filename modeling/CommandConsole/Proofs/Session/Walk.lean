import Mathlib.Algebra.Order.Group.Int
import CommandConsole.Proofs.History.Run
import CommandConsole.Session.Basic

/-!
# Walks through the history

The position of a walk is a number: -1 is the live line, 0 the newest entry, and each move goes one step up or down
between the live line and the oldest entry (`Direction.position`). What the input line shows is a matter of that number,
of the entries and of the draft that it held at first (`History.textAt`). A move of a history does just this
(`History.navigate_standing`), though it is given the text on display and keeps the draft only while it is away from the
live line; so does a move of a session (`Session.navigate_onWalk`), and a whole walk (`Session.navigate_clamped`).
-/

namespace CommandConsole

namespace Direction

/-- The position after a move, where there are `n` entries. -/
def moved (n : Nat) (p : Int) : Direction → Int
  | older => min (p + 1) (n - 1)
  | newer => max (p - 1) (-1)

/-- The position after moves from the live line. -/
def position (n : Nat) (ds : List Direction) : Int := ds.foldl (moved n) (-1)

/-- A position is the live line or that of an entry. -/
def Within (n : Nat) (p : Int) : Prop := -1 ≤ p ∧ p ≤ n - 1

/-- A move leads to a position. -/
theorem within_moved {n : Nat} {p : Int} (h : Within n p) (d : Direction) : Within n (moved n p d) := by
  obtain ⟨hlow, hhigh⟩ := h
  cases d <;> simp only [moved, Within] <;> omega

/-- One more move. -/
theorem position_concat (n : Nat) (ds : List Direction) (d : Direction) :
    position n (ds ++ [d]) = moved n (position n ds) d := by
  simp only [position, List.foldl_append, List.foldl_cons, List.foldl_nil]

/-- So do many moves. -/
theorem within_position (n : Nat) (ds : List Direction) : Within n (position n ds) := by
  induction ds using List.reverseRecOn with
  | nil => exact ⟨Int.le_refl _, by simp only [position, List.foldl_nil]; omega⟩
  | append_singleton ds d ih =>
    rw [position_concat]
    exact within_moved ih d

/-- Older moves go up by one each, at most. -/
theorem position_older_le (n count : Nat) : position n (List.replicate count older) ≤ count - 1 := by
  induction count with
  | zero => exact Int.le_refl _
  | succ count ih =>
    rw [List.replicate_succ', position_concat, moved]
    omega

/-- Newer moves go down by one each, as far as the live line. -/
theorem foldl_newer (n count : Nat) {p : Int} (h : -1 ≤ p) :
    (List.replicate count newer).foldl (moved n) p = max (p - count) (-1) := by
  induction count with
  | zero => simp [h]
  | succ count ih =>
    rw [List.replicate_succ', List.foldl_append, ih]
    simp only [List.foldl_cons, List.foldl_nil, moved]
    omega

/-- At least as many newer moves as there were older ones lead back to the live line. -/
theorem position_back {up down : Nat} (h : up ≤ down) (n : Nat) :
    position n (List.replicate up older ++ List.replicate down newer) = -1 := by
  have hhigh := position_older_le n up
  have hlow := (within_position n (List.replicate up older)).1
  rw [position, List.foldl_append, ← position, foldl_newer n down hlow]
  omega

end Direction

namespace History

/-- The walk that stands at a position and keeps a draft; there is none at the live line. -/
def walkAt (draft : String) (p : Int) : Option Walk := if p < 0 then none else some ⟨p.toNat, draft⟩

/-- A history that stands at a position. -/
def standing (h : History) (draft : String) (p : Int) : History := { h with walk := walkAt draft p }

/-- The text that a walk shows at a position. -/
def textAt (h : History) (draft : String) (p : Int) : String := if p < 0 then draft else h.entryAt p.toNat

theorem standing_live (h : History) (draft : String) : h.standing draft (-1) = h.resetNavigation := rfl

theorem standing_entry (h : History) (draft : String) (back : Nat) :
    h.standing draft back = { h with walk := some ⟨back, draft⟩ } := by
  rw [standing, walkAt, if_neg (by omega), Int.toNat_natCast]

theorem textAt_live (h : History) (draft : String) : h.textAt draft (-1) = draft := rfl

theorem textAt_entry (h : History) (draft : String) (back : Nat) : h.textAt draft back = h.entryAt back := by
  rw [textAt, if_neg (by omega), Int.toNat_natCast]

/-- A position is the live line, or a number of steps back from the newest entry. -/
theorem position_cases {n : Nat} {p : Int} (hp : Direction.Within n p) : p = -1 ∨ ∃ back : Nat, p = back ∧ back < n := by
  obtain ⟨hlow, hhigh⟩ := hp
  by_cases hlive : p = -1
  · exact Or.inl hlive
  · exact Or.inr ⟨p.toNat, by omega, by omega⟩

/-- The cursor of a history that stands at a position is that position. -/
theorem standing_cursor (h : History) (draft : String) {n : Nat} {p : Int} (hp : Direction.Within n p) :
    (h.standing draft p).cursor = p := by
  rcases position_cases hp with rfl | ⟨back, rfl, -⟩
  · rfl
  · rw [standing_entry, cursor]

/-- The cursor of a history is before the newest entry only if there is no walk. -/
theorem walk_of_cursor {h : History} (hlive : h.cursor = -1) : h.walk = none := by
  unfold cursor at hlive
  split at hlive
  · assumption
  · omega

/-- The text at a position is the draft at the live line, and elsewhere the entry that is as far from the newest one. -/
theorem textAt_spec (h : History) (draft : String) {p : Int} (hp : Direction.Within h.entries.length p) :
    (p = -1 → h.textAt draft p = draft) ∧
      (0 ≤ p → h.entries[(h.entries.length - 1 - p).toNat]? = some (h.textAt draft p)) := by
  rcases position_cases hp with rfl | ⟨back, rfl, hback⟩
  · exact ⟨fun _ => rfl, fun hentry => absurd hentry (by decide)⟩
  · refine ⟨fun hlive => absurd hlive (by omega), fun _ => ?_⟩
    have hindex : h.entries.length - 1 - back < h.entries.length := by omega
    rw [textAt_entry, entryAt, List.getElem?_reverse hback, List.getElem?_eq_getElem hindex,
      show (h.entries.length - 1 - back : Int).toNat = h.entries.length - 1 - back by omega,
      List.getElem?_eq_getElem hindex]
    rfl

/-- **A move of a history.** At a position of a walk, when the text of that position is on display, a move leads to the
next position and its text. -/
theorem navigate_standing (h : History) (draft : String) {p : Int} (hp : Direction.Within h.entries.length p)
    (d : Direction) :
    (h.standing draft p).navigate d (h.textAt draft p) =
      (h.standing draft (d.moved h.entries.length p), h.textAt draft (d.moved h.entries.length p)) := by
  -- without entries nothing moves; otherwise the walk stands at the live line or at an entry, and moves either way
  by_cases hnone : h.entries = []
  · have hlive : ∀ q, Direction.Within h.entries.length q → q = -1 := by
      intro q hq
      rcases position_cases hq with rfl | ⟨back, -, hback⟩
      · rfl
      · rw [hnone] at hback
        exact absurd hback (Nat.not_lt_zero back)
    rw [hlive _ (Direction.within_moved hp d), hlive p hp]
    simp [navigate, standing, hnone]
  · have hsome : h.entries.isEmpty = false := by simpa using hnone
    have hpos : 0 < h.entries.length := List.length_pos_iff.mpr hnone
    rcases position_cases hp with rfl | ⟨back, rfl, hback⟩
    · cases d with
      | older =>
        have hmoved : Direction.older.moved h.entries.length (-1) = (0 : Nat) := by simp only [Direction.moved]; omega
        rw [hmoved, standing_live, standing_entry, textAt_live, textAt_entry]
        simp [navigate, resetNavigation, hsome, entryAt]
      | newer =>
        have hmoved : Direction.newer.moved h.entries.length (-1) = -1 := rfl
        rw [hmoved, standing_live, textAt_live]
        simp [navigate, resetNavigation]
    · rw [standing_entry, textAt_entry]
      cases d with
      | older =>
        by_cases hroom : back + 1 < h.entries.length
        · have hmoved : Direction.older.moved h.entries.length back = (back + 1 : Nat) := by
            simp only [Direction.moved]; omega
          rw [hmoved, standing_entry, textAt_entry]
          simp [navigate, hsome, hroom, entryAt]
        · have hmoved : Direction.older.moved h.entries.length back = back := by simp only [Direction.moved]; omega
          rw [hmoved, standing_entry, textAt_entry]
          simp [navigate, hroom]
      | newer =>
        cases back with
        | zero =>
          have hmoved : Direction.newer.moved h.entries.length (0 : Nat) = -1 := rfl
          rw [hmoved, standing_live, textAt_live]
          simp [navigate, hsome, resetNavigation]
        | succ back =>
          have hmoved : Direction.newer.moved h.entries.length (back + 1 : Nat) = back := by
            simp only [Direction.moved]; omega
          rw [hmoved, standing_entry, textAt_entry]
          simp [navigate, hsome, entryAt]

end History

/-- Putting a text into the input line meets no fault, or the one that the surface has for changes. -/
theorem Surface.faultOfInput_cases (s : Surface) (text : String) :
    s.faultOfInput text = .ok () ∨ ∃ f, s.changeFault = some f ∧ s.faultOfInput text = .error f := by
  unfold faultOfInput
  cases s.changeFault with
  | none => exact Or.inl rfl
  | some f =>
    dsimp only
    split
    · exact Or.inl rfl
    · exact Or.inr ⟨f, rfl, rfl⟩

namespace Session

/-- Moves through the history, one after the other. -/
def navigateAll (s : Session) (moves : List Value) : Session := moves.foldl (fun s move => (s.navigate move).1) s

/-- A session that stands at a position of a walk, which has begun at the first one. -/
structure OnWalk (s : Session) (p : Int) (s' : Session) : Prop where
  history : s'.history = s.history.standing s.surface.input p
  input : s'.surface.input = s.history.textAt s.surface.input p
  changeFault : s'.surface.changeFault = s.surface.changeFault

/-- A walk begins at the live line. -/
theorem onWalk_live {s : Session} (hlive : s.history.walk = none) : OnWalk s (-1) s where
  history := by
    rw [History.standing_live, History.resetNavigation, ← hlive]
  input := rfl
  changeFault := rfl

/-- A move of a session leads to the next position of its walk and ends the completion cycle. It gives back what the
input line shows then, or the fault that changing the line has met. -/
theorem navigate_onWalk {s s' : Session} {p : Int} (h : OnWalk s p s')
    (hp : Direction.Within s.history.entries.length p) {move : Value} {d : Direction}
    (hmove : Direction.parse move = .ok d) :
    OnWalk s (d.moved s.history.entries.length p) (s'.navigate move).1 ∧
      (s'.navigate move).1.completion.cycle = none ∧
      ((s'.navigate move).2 = .ok (s'.navigate move).1.surface.input ∨
        ∃ f, s.surface.changeFault = some f ∧ (s'.navigate move).2 = .error f) := by
  have hfound := s.history.navigate_standing s.surface.input hp d
  rw [← h.history, ← h.input] at hfound
  simp only [navigate, hmove, navigateTo, hfound]
  split
  · rename_i hsame
    exact ⟨⟨rfl, hsame.symm, h.changeFault⟩, rfl, Or.inl (congrArg Except.ok hsame)⟩
  · refine ⟨⟨rfl, rfl, h.changeFault⟩, rfl, ?_⟩
    show Except.map _ (s'.surface.faultOfInput _) = _ ∨ ∃ f, _ ∧ Except.map _ (s'.surface.faultOfInput _) = _
    rw [← h.changeFault]
    rcases s'.surface.faultOfInput_cases (s.history.textAt s.surface.input (d.moved s.history.entries.length p)) with
      hwritten | ⟨f, hfault, hwritten⟩
    · exact Or.inl (by rw [hwritten]; rfl)
    · exact Or.inr ⟨f, hfault, by rw [hwritten]; rfl⟩

/-- So do many moves. -/
theorem navigateAll_onWalk {s : Session} (hlive : s.history.walk = none) {moves : List Value} {ds : List Direction}
    (hmoves : moves.map Direction.parse = ds.map .ok) :
    OnWalk s (Direction.position s.history.entries.length ds) (s.navigateAll moves) := by
  induction ds using List.reverseRecOn generalizing moves with
  | nil =>
    rw [List.map_nil, List.map_eq_nil_iff] at hmoves
    rw [hmoves]
    exact onWalk_live hlive
  | append_singleton ds d ih =>
    rw [List.map_append] at hmoves
    obtain ⟨earlier, last, rfl, hearlier, hlast⟩ := List.map_eq_append_iff.mp hmoves
    obtain ⟨move, rfl, hmove⟩ := List.map_eq_singleton_iff.mp hlast
    have hbefore := ih hearlier
    rw [navigateAll, List.foldl_append, Direction.position_concat]
    exact (navigate_onWalk hbefore (Direction.within_position _ ds) hmove).1

/-- **A walk through the history.** A session at the live line has a draft in its input line. After any moves in any
spelling, and a last one, the cursor is at the position that the moves lead to; the input line shows the draft if this is
the live line, and the entry that is as far from the newest one otherwise. This text is given back, or else the fault
that changes of the input line meet. The entries and the store are as they were, and there is no completion cycle. As
many newer moves as there were older ones, or more, bring the draft back. -/
theorem navigate_clamped {s : Session} (hlive : s.history.cursor = -1) {moves : List Value} {ds : List Direction}
    (hmoves : moves.map Direction.parse = ds.map .ok) {last : Value} {d : Direction}
    (hlast : Direction.parse last = .ok d) :
    let after := ((s.navigateAll moves).navigate last).1
    let result := ((s.navigateAll moves).navigate last).2
    let n := s.history.entries.length
    let p := Direction.position n (ds ++ [d])
    after.history.cursor = p ∧
      (p = -1 → after.surface.input = s.surface.input) ∧
      (p ≠ -1 → s.history.entries[(n - 1 - p).toNat]? = some after.surface.input) ∧
      (result = .ok after.surface.input ∨ ∃ f, s.surface.changeFault = some f ∧ result = .error f) ∧
      after.history.entries = s.history.entries ∧ after.history.storage = s.history.storage ∧
      after.completion.cycle = none ∧
      ∀ up down : Nat, up ≤ down → ds ++ [d] = List.replicate up .older ++ List.replicate down .newer →
        after.surface.input = s.surface.input ∧ after.history.cursor = -1 := by
  have hwalk := navigateAll_onWalk (History.walk_of_cursor hlive) hmoves
  obtain ⟨hafter, hcycle, hresult⟩ := navigate_onWalk hwalk (Direction.within_position _ ds) hlast
  rw [← Direction.position_concat] at hafter
  have hp := Direction.within_position s.history.entries.length (ds ++ [d])
  obtain ⟨hdraft, hentry⟩ := s.history.textAt_spec s.surface.input hp
  have hcursor := s.history.standing_cursor s.surface.input hp
  rw [← hafter.history] at hcursor
  rw [← hafter.input] at hdraft hentry
  dsimp only
  refine ⟨hcursor, hdraft, fun hne => hentry ?_, hresult, ?_, ?_, hcycle, fun up down hle hback => ?_⟩
  · have hlow := hp.1
    omega
  · rw [hafter.history]
    rfl
  · rw [hafter.history]
    rfl
  · have hposition := Direction.position_back hle s.history.entries.length
    rw [← hback] at hposition
    exact ⟨hdraft hposition, hcursor.trans hposition⟩

namespace LongWalk

/-- A console with two entries, and a draft that is one of them. -/
def console : Session where
  surface := { input := "two" }
  history := { storage := {}, key := "lines", capacity := 3, entries := ["one", "two"] }
  prompt := ">"

/-- Three moves up. -/
def moves : List Value := [.string " Up ", .string "OLDER", .string "up"]

end LongWalk

open LongWalk in
/-- The third move up finds no older entry, so the first one down leads to the newest. -/
theorem navigate_clamped_pastOldest :
    console.history.cursor = -1 ∧ moves.map Direction.parse = [.older, .older, .older].map .ok ∧
      Direction.parse (.string "Down") = .ok .newer ∧
      let moved := (console.navigateAll moves).navigate (.string "Down")
      moved.1.history.cursor = 0 ∧ moved.1.surface.input = "two" ∧ moved.2 = .ok "two" ∧
        moved.1.history.entries = ["one", "two"] := by
  have hmoves : moves.map Direction.parse = [.older, .older, .older].map .ok := by rfl
  have hlast : Direction.parse (.string "Down") = .ok .newer := by rfl
  obtain ⟨hcursor, -, hentry, hresult, hentries, -⟩ := navigate_clamped (s := console) (by rfl) hmoves hlast
  have hshown := Option.some.inj (hentry (by decide))
  have hgiven := hresult.resolve_right fun ⟨f, hfault, _⟩ => nomatch hfault
  exact ⟨by rfl, hmoves, hlast, hcursor, hshown.symm, hgiven.trans (congrArg Except.ok hshown.symm), hentries⟩

end Session

end CommandConsole
