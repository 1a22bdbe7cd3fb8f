import CommandConsole.Proofs.Completion.Sound

/-!
# Completions at work

What happens to completions is a list of events (`Completion.Event`): requests, resets, registrations and removals, and
completers that answer something else from now on. In every state that events lead to, the cycle is sound
(`undergoAll_sound`), so a request takes a cycle to its next candidate, ends it or leaves it alone, and looks at the line
of the cycle only (`cycle_wellFormed`).
-/

namespace CommandConsole

namespace Completion

/-! ## Events -/

/-- Something that happens to completions. -/
inductive Event where
  | request (input : String)
  | reset
  | registered (candidate : Candidate Action)
  | unregistered (name : String)
  /-- From now on the commands have other completers, or none. -/
  | rewired (completers : Entry → Option Completer)

end Completion

/-- A registry whose commands have other completers. -/
def Registry.rewire (r : Registry) (completers : Entry → Option Completer) : Registry :=
  ⟨r.entries.map fun e => { e with command := { e.command with completer := completers e } }⟩

namespace Completion

/-- The state after an event. -/
def undergo (s : Completion) : Event → Completion
  | .request input => (s.complete input).state
  | .reset => s.reset
  | .registered candidate => { s with registry := (s.registry.register candidate).state }
  | .unregistered name => { s with registry := (s.registry.unregister name).1 }
  | .rewired completers => { s with registry := s.registry.rewire completers }

/-- The state after events. -/
def undergoAll (s : Completion) (events : List Event) : Completion := events.foldl undergo s

/-- Nothing has been completed yet. -/
def fresh (registry : Registry) : Completion := { registry }

/-! ## What events keep -/

/-- The cycle of these completions is sound, if there is one. -/
def Sound (s : Completion) : Prop := ∀ c, s.cycle = some c → c.Sound

/-- A request keeps the cycle sound, whatever the completer answers. -/
theorem complete_sound {s : Completion} (h : s.Sound) (input : String) : (s.complete input).state.Sound := by
  intro c hc
  rcases complete_shown h input with ⟨hcycle, -⟩ | ⟨text, -, hshown⟩
  · exact h c (hcycle ▸ hc)
  · exact (hshown c hc).1

/-- An event keeps the cycle sound: only requests and resets touch it. -/
theorem undergo_sound {s : Completion} (h : s.Sound) (event : Event) : (s.undergo event).Sound := by
  cases event with
  | request input => exact complete_sound h input
  | reset =>
    intro c hc
    cases hc
  | registered _ | unregistered _ | rewired _ => exact h

/-- Events keep the cycle sound. -/
theorem undergoAll_sound (events : List Event) : ∀ {s : Completion}, s.Sound → (s.undergoAll events).Sound := by
  induction events with
  | nil => exact fun h => h
  | cons event events ih => exact fun h => ih (undergo_sound h event)

/-- In every state that events lead to from the start, the cycle is sound. -/
theorem fresh_undergoAll_sound (r : Registry) (events : List Event) : ((fresh r).undergoAll events).Sound := by
  apply undergoAll_sound
  intro c hc
  cases hc

/-! ## Requests during a cycle -/

/-- During a cycle the input line makes no difference. -/
theorem complete_of_cycle {s : Completion} {c : Cycle} (hc : s.cycle = some c) (input input' : String) :
    s.complete input = s.complete input' := by
  have hline : Cycle.baseLine s.cycle input = Cycle.baseLine s.cycle input' := by rw [hc]; rfl
  simp only [complete, hline]

/-- The next state of a sound cycle, for the line that it is about, is the cycle at its next candidate. -/
theorem next_of_sound {c : Cycle} (h : c.Sound) (cs : List String) :
    Cycle.next (.ofTokens (Line.splitForCompletion c.line)) cs c.line (some c) = c.advanced := by
  simp only [Cycle.next, h.keyed, if_true]

/-- A turn of a sound cycle: none of the candidates change nothing, a single one ends the cycle, and with several the
cycle goes on, whichever they are. -/
theorem turn_of_sound {c : Cycle} (h : c.Sound) (cs : List String) :
    (cs = [] ∧ turn (some c) c.line cs = (some c, none)) ∨
      (∃ candidate, cs = [candidate] ∧ turn (some c) c.line cs = (none, some (Line.replaceLast c.line candidate))) ∨
      (2 ≤ cs.length ∧ turn (some c) c.line cs = (some c.advanced, some c.advanced.shown)) := by
  match cs with
  | [] => exact Or.inl ⟨rfl, rfl⟩
  | [candidate] => exact Or.inr (Or.inl ⟨candidate, rfl, rfl⟩)
  | d :: e :: rest =>
    have hseveral : 2 ≤ (d :: e :: rest).length := Nat.le_add_left 2 rest.length
    refine Or.inr (Or.inr ⟨hseveral, ?_⟩)
    rw [turn_several hseveral, next_of_sound h]
    rfl

/-- A request during a sound cycle leaves it alone and shows nothing, or ends it with the only candidate that it finds,
or takes it to its next candidate and shows that one. -/
theorem complete_during {s : Completion} {c : Cycle} (hc : s.cycle = some c) (h : c.Sound) (input : String) :
    ((s.complete input).state.cycle = some c ∧ ∀ text, (s.complete input).result ≠ .ok (some text)) ∨
      (∃ candidate, s.offers c.line = .ok [candidate] ∧ (s.complete input).state.cycle = none ∧
        (s.complete input).result = .ok (some (Line.replaceLast c.line candidate))) ∨
      (∃ cs, s.offers c.line = .ok cs ∧ 2 ≤ cs.length ∧ (s.complete input).state.cycle = some c.advanced ∧
        (s.complete input).result = .ok (some c.advanced.shown)) := by
  obtain ⟨hstate, hresult⟩ := Prod.mk.inj (s.complete_outcome input)
  have hline : Cycle.baseLine s.cycle input = c.line := by rw [hc]; rfl
  rw [hline, hc] at hstate hresult
  rw [hstate, hresult]
  cases hoffers : s.offers c.line with
  | error why =>
    left
    cases why <;> exact ⟨rfl, fun _ h => nomatch h⟩
  | ok cs =>
    dsimp only
    rcases turn_of_sound h cs with ⟨rfl, hturn⟩ | ⟨candidate, rfl, hturn⟩ | ⟨hseveral, hturn⟩
    · left
      rw [hturn]
      exact ⟨rfl, fun _ h => nomatch h⟩
    · right; left
      rw [hturn]
      exact ⟨candidate, rfl, rfl, rfl⟩
    · right; right
      rw [hturn]
      exact ⟨cs, rfl, hseveral, rfl, rfl⟩

/-- **Completions stay well-formed.** In every state that events lead to, a cycle has several candidates, of which it
stands at one, and it is about what the tokens of its own line say. A request during the cycle leaves it alone and shows
nothing, or ends it with the only candidate that there is, or takes it to its next candidate, which there is, and shows
that one; it never begins another one. All of this is the same for every input line. -/
theorem cycle_wellFormed (r : Registry) (events : List Event) (c : Cycle)
    (hc : ((fresh r).undergoAll events).cycle = some c) :
    let s := (fresh r).undergoAll events
    (2 ≤ c.candidates.length ∧ c.index < c.candidates.length ∧ c.candidates[c.index]? = some c.current ∧
        c.key = .ofTokens (Line.splitForCompletion c.line)) ∧
      (∀ input,
        (s.complete input).state.cycle = some c ∧ (∀ text, (s.complete input).result ≠ .ok (some text)) ∨
        (s.complete input).state.cycle = none ∧
          (∃ candidate, s.offers c.line = .ok [candidate] ∧
            (s.complete input).result = .ok (some (Line.replaceLast c.line candidate))) ∨
        (s.complete input).state.cycle = some c.advanced ∧
          c.candidates[(c.index + 1) % c.candidates.length]? = some c.advanced.current ∧
          (s.complete input).result = .ok (some (Line.replaceLast c.line c.advanced.current))) ∧
      ∀ input input', s.complete input = s.complete input' := by
  intro s
  have hsound : c.Sound := fresh_undergoAll_sound r events c hc
  have happlied : ∀ d : Cycle, d.Sound → d.candidates[d.index]? = some d.current := by
    intro d hd
    simp [Cycle.current, List.getElem?_eq_getElem hd.within]
  refine ⟨⟨hsound.several, hsound.within, happlied c hsound, hsound.keyed⟩, fun input => ?_, complete_of_cycle hc⟩
  rcases complete_during hc hsound input with
    ⟨hcycle, hnone⟩ | ⟨candidate, hone, hcycle, htext⟩ | ⟨cs, -, -, hcycle, htext⟩
  · exact Or.inl ⟨hcycle, hnone⟩
  · exact Or.inr (Or.inl ⟨hcycle, candidate, hone, htext⟩)
  · exact Or.inr (Or.inr ⟨hcycle, happlied _ hsound.advanced, htext⟩)

namespace ChangingAnswers

/-- A command whose completer offers three candidates at first. -/
def run : Command :=
  { name := "run", action := fun _ => .done, usage := .string "run",
    completer := some fun _ => .ok (.list [.string "alpha", .string "beta", .string "gamma"]) }

/-- Another command, which begins in the same way. -/
def rush : Command := { name := "rush", action := fun _ => .done, usage := .string "rush" }

/-- A cycle is begun; commands come and go; the completer fails, and then offers two other candidates. -/
def events : List Event :=
  [.request "Run  fast ", .registered (.command rush), .rewired fun _ => some fun _ => .error (.fault (.badState "no")),
    .request "", .unregistered "RUSH", .rewired fun _ => some fun _ => .ok (.list [.int 1, .int 2]), .request "run"]

/-- The cycle that the events lead to. -/
def reached : Cycle :=
  { candidates := ["alpha", "beta", "gamma"], index := 1, key := .argument "run" 2 "", line := "Run  fast " }

end ChangingAnswers

open ChangingAnswers in
/-- A cycle that outlives a failure of its completer and a change of what it offers. -/
theorem cycle_wellFormed_changing :
    let s := (fresh ⟨[⟨"run", run, 0⟩]⟩).undergoAll events
    s.cycle = some reached ∧
      (2 ≤ reached.candidates.length ∧ reached.index < reached.candidates.length ∧
        reached.candidates[reached.index]? = some reached.current ∧
        reached.key = .ofTokens (Line.splitForCompletion reached.line)) ∧
      (∀ input,
        (s.complete input).state.cycle = some reached ∧ (∀ text, (s.complete input).result ≠ .ok (some text)) ∨
        (s.complete input).state.cycle = none ∧
          (∃ candidate, s.offers reached.line = .ok [candidate] ∧
            (s.complete input).result = .ok (some (Line.replaceLast reached.line candidate))) ∨
        (s.complete input).state.cycle = some reached.advanced ∧
          reached.candidates[(reached.index + 1) % reached.candidates.length]? = some reached.advanced.current ∧
          (s.complete input).result = .ok (some (Line.replaceLast reached.line reached.advanced.current))) ∧
      ∀ input input', s.complete input = s.complete input' :=
  ⟨by decide +kernel, cycle_wellFormed ⟨[⟨"run", run, 0⟩]⟩ events reached (by decide +kernel)⟩

end Completion

end CommandConsole
