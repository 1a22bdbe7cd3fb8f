import CommandConsole.Proofs.Completion.Request
import CommandConsole.Proofs.Text.Tokens

/-!
# Sound cycles

`Cycle.Sound` holds of every cycle that requests lead to (`complete_sound`), and the line that a request gives back is
the one that its cycle shows from then on (`complete_shown`). That no candidate makes a blank line (`offers_notBlank`)
is due to the line that it is found for: a request for the only token offers names that begin with it, and in a line of
several tokens the first one stays and is a word.
-/

namespace CommandConsole

/-- The line that shows the candidate of a cycle. -/
def Cycle.shown (c : Cycle) : String := Line.replaceLast c.line c.current

/-- A sound cycle goes through several candidates, has one of them applied, is about the tokens of its line, and none of
its candidates makes a blank line. -/
structure Cycle.Sound (c : Cycle) : Prop where
  several : 2 ≤ c.candidates.length
  within : c.index < c.candidates.length
  keyed : c.key = .ofTokens (Line.splitForCompletion c.line)
  notBlank : ∀ candidate ∈ c.candidates, allBlank (Line.replaceLast c.line candidate) = false

/-- The candidate that is applied is one of them. -/
theorem Cycle.Sound.current_mem {c : Cycle} (h : c.Sound) : c.current ∈ c.candidates := by
  rw [Cycle.current, List.getElem?_eq_getElem h.within]
  exact List.getElem_mem h.within

/-- A sound cycle does not show a blank line. -/
theorem Cycle.Sound.shown_notBlank {c : Cycle} (h : c.Sound) : allBlank c.shown = false :=
  h.notBlank _ h.current_mem

/-- A sound cycle stays sound at its next candidate. -/
theorem Cycle.Sound.advanced {c : Cycle} (h : c.Sound) : c.advanced.Sound where
  several := h.several
  within := Nat.mod_lt _ (Nat.lt_of_lt_of_le Nat.two_pos h.several)
  keyed := h.keyed
  notBlank := h.notBlank

namespace Completion

/-! ## Candidates that do not make blank lines -/

/-- A text is not blank if it holds what is not. -/
theorem allBlank_of_subset {s t : String} (hsub : s.toList ⊆ t.toList) (hs : allBlank s = false) :
    allBlank t = false := by
  rw [allBlank, List.all_eq_false] at hs ⊢
  obtain ⟨c, hc, hnot⟩ := hs
  exact ⟨c, hsub hc, hnot⟩

/-- Tokens that begin with a word are no blank line. -/
theorem joinTokens_notBlank {w : String} (hw : allBlank w = false) (rest : List String) :
    allBlank (Line.joinTokens (w :: rest)) = false := by
  refine allBlank_of_subset ?_ hw
  cases rest with
  | nil => simp [Line.joinTokens]
  | cons t rest =>
    rw [Line.joinTokens, String.intercalate_cons_of_ne_nil (List.cons_ne_nil _ _)]
    intro c hc
    simp [hc]

/-- A name that begins with a word is no blank. -/
theorem matching_notBlank {typed : String} (htyped : allBlank typed = false) {names : List String} {name : String}
    (h : name ∈ matching typed names) : allBlank name = false := by
  have hstarts := (List.mem_filter.mp h).2
  exact allBlank_of_subset (List.isPrefixOf_iff_prefix.mp hstarts).subset (allBlank_lowerCase htyped)

/-- No candidate for a line makes a blank line. -/
theorem offers_notBlank {s : Completion} {line : String} {cs : List String} (h : s.offers line = .ok cs) :
    ∀ c ∈ cs, allBlank (Line.replaceLast line c) = false := by
  intro c hc
  rcases splitForCompletion_cases line with htok | ⟨w, rest, hw, htok⟩
  · simp only [offers, htok] at h
    cases h
    cases hc
  · have hword := allBlank_of_mem_words hw
    rw [Line.replaceLast, htok]
    cases rest with
    | nil =>
      rw [replaceLast_singleton]
      simp only [offers, htok] at h
      by_cases hempty : w.isEmpty = true
      · simp only [hempty, if_true] at h
        cases h
        cases hc
      · simp only [hempty] at h
        cases h
        exact matching_notBlank hword hc
    | cons t rest =>
      rw [replaceLast, List.dropLast_cons_cons, List.cons_append]
      exact joinTokens_notBlank hword _

/-! ## What requests make of a cycle -/

/-- Candidates for the line of a sound cycle, or for any line if there is no cycle, are followed by a sound cycle that
is about that line. -/
theorem next_sound {cycle : Option Cycle} (hsound : ∀ c, cycle = some c → c.Sound) {input line : String}
    (hline : Cycle.baseLine cycle input = line) {cs : List String} (hcs : 2 ≤ cs.length)
    (hblank : ∀ c ∈ cs, allBlank (Line.replaceLast line c) = false) :
    (Cycle.next (.ofTokens (Line.splitForCompletion line)) cs line cycle).Sound ∧
      (Cycle.next (.ofTokens (Line.splitForCompletion line)) cs line cycle).line = line := by
  have hnew : Cycle.Sound { candidates := cs, key := .ofTokens (Line.splitForCompletion line), line := line } :=
    ⟨hcs, Nat.lt_of_lt_of_le Nat.two_pos hcs, rfl, hblank⟩
  cases cycle with
  | none => exact ⟨hnew, rfl⟩
  | some c =>
    by_cases hkey : c.key = .ofTokens (Line.splitForCompletion line)
    · simp only [Cycle.next, hkey, if_true]
      exact ⟨(hsound c rfl).advanced, hline⟩
    · simp only [Cycle.next, hkey, if_false]
      exact ⟨hnew, trivial⟩

/-- A turn leaves the cycle and shows nothing, or it shows the line that the cycle shows from then on, if one is left.
-/
theorem turn_shown {cycle : Option Cycle} (hsound : ∀ c, cycle = some c → c.Sound) {input line : String}
    (hline : Cycle.baseLine cycle input = line) {cs : List String}
    (hblank : ∀ c ∈ cs, allBlank (Line.replaceLast line c) = false) :
    turn cycle line cs = (cycle, none) ∨
      ∃ text, (turn cycle line cs).2 = some text ∧ ∀ c, (turn cycle line cs).1 = some c → c.Sound ∧ text = c.shown := by
  match cs with
  | [] => exact Or.inl rfl
  | [c] => exact Or.inr ⟨_, rfl, fun _ h => nomatch h⟩
  | c :: d :: rest =>
    have hcs : 2 ≤ (c :: d :: rest).length := Nat.le_add_left 2 rest.length
    obtain ⟨hnext, habout⟩ := next_sound hsound hline hcs hblank
    rw [turn_several hcs]
    refine Or.inr ⟨_, rfl, fun e he => ?_⟩
    cases he
    exact ⟨hnext, by rw [Cycle.shown, habout]⟩

/-- A request leaves the cycle and gives nothing back, or it gives back the line that the cycle shows from then on, if
one is left, and that cycle is sound. -/
theorem complete_shown {s : Completion} (hsound : ∀ c, s.cycle = some c → c.Sound) (input : String) :
    ((s.complete input).state.cycle = s.cycle ∧ ∀ text, (s.complete input).result ≠ .ok (some text)) ∨
      ∃ text, (s.complete input).result = .ok (some text) ∧
        ∀ c, (s.complete input).state.cycle = some c → c.Sound ∧ text = c.shown := by
  obtain ⟨hstate, hresult⟩ := Prod.mk.inj (s.complete_outcome input)
  rw [hstate, hresult]
  cases hoffers : s.offers (Cycle.baseLine s.cycle input) with
  | error why =>
    left
    cases why <;> exact ⟨rfl, fun _ h => nomatch h⟩
  | ok cs =>
    rcases turn_shown hsound rfl (offers_notBlank hoffers) with hturn | ⟨text, htext, hshown⟩
    · left
      simp [hturn]
    · exact Or.inr ⟨text, congrArg Except.ok htext, hshown⟩

/-- Without a cycle, a line that is given back is the input line with a candidate for it. -/
theorem complete_afresh {s : Completion} (hidle : s.cycle = none) {input text : String}
    (h : (s.complete input).result = .ok (some text)) :
    ∃ cs, s.offers input = .ok cs ∧ ∃ c ∈ cs, text = Line.replaceLast input c := by
  have hresult := congrArg Prod.snd (s.complete_outcome input)
  rw [hidle, h] at hresult
  cases hoffers : s.offers input with
  | error why => cases why <;> simp [Cycle.baseLine, hoffers, outcome] at hresult
  | ok cs =>
    rcases cs with _ | ⟨c, _ | ⟨d, rest⟩⟩
    · simp [Cycle.baseLine, hoffers, outcome, turn] at hresult
    · exact ⟨[c], rfl, c, List.mem_cons_self, by simpa [Cycle.baseLine, hoffers, outcome, turn] using hresult⟩
    · exact ⟨_, rfl, c, List.mem_cons_self,
        by simpa [Cycle.baseLine, hoffers, outcome, turn, Cycle.next, Cycle.current] using hresult⟩

end Completion

end CommandConsole
