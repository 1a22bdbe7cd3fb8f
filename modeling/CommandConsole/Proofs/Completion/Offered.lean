import CommandConsole.Proofs.Completion.WellFormed

/-!
# What is offered and what is found

A request looks for candidates each time, but a cycle goes through those that it began with. As long as the next of them
is among the candidates that the request finds, or the request finds a single one, what is offered is what is found
(`offered_now_iff`). Otherwise it is not: a name can be offered whose command is no longer registered
(`unregistered_name_offered`).
-/

namespace CommandConsole

/-- Different candidates make different lines. -/
theorem Line.replaceLast_injective (line : String) : Function.Injective (Line.replaceLast line) := by
  intro c d h
  simp only [Line.replaceLast, Completion.replaceLast, Line.joinTokens] at h
  cases hrest : (Line.splitForCompletion line).dropLast with
  | nil =>
    rw [hrest] at h
    simpa using h
  | cons t rest =>
    rw [hrest, String.intercalate_append_of_ne_nil (List.cons_ne_nil _ _) (List.cons_ne_nil _ _),
      String.intercalate_append_of_ne_nil (List.cons_ne_nil _ _) (List.cons_ne_nil _ _)] at h
    simpa using h

namespace Completion

/-- Without a cycle, what is offered is one of the candidates that the request finds for the input line. During a cycle
it is the only candidate that is found now, or the next one of those that the cycle began with. -/
theorem offered_cases {s : Completion} (hsound : s.Sound) {input text : String}
    (h : (s.complete input).result = .ok (some text)) :
    ∃ cs, s.offers (Cycle.baseLine s.cycle input) = .ok cs ∧
      ((s.cycle = none ∧ ∃ candidate ∈ cs, text = Line.replaceLast input candidate) ∨
        ∃ c, s.cycle = some c ∧
          ((∃ candidate, cs = [candidate] ∧ text = Line.replaceLast c.line candidate) ∨
            (2 ≤ cs.length ∧ text = Line.replaceLast c.line c.advanced.current))) := by
  cases hcycle : s.cycle with
  | none =>
    obtain ⟨cs, hcs, candidate, hmem, rfl⟩ := complete_afresh hcycle h
    exact ⟨cs, hcs, Or.inl ⟨rfl, candidate, hmem, rfl⟩⟩
  | some c =>
    rcases complete_during hcycle (hsound c hcycle) input with
      ⟨-, hnone⟩ | ⟨candidate, hone, -, htext⟩ | ⟨cs, hcs, hseveral, -, htext⟩
    · exact absurd h (hnone text)
    · rw [h] at htext
      cases htext
      exact ⟨_, hone, Or.inr ⟨c, rfl, Or.inl ⟨candidate, rfl, rfl⟩⟩⟩
    · rw [h] at htext
      cases htext
      exact ⟨cs, hcs, Or.inr ⟨c, rfl, Or.inr ⟨hseveral, rfl⟩⟩⟩

/-- **When what is offered is what is found.** In every state that events lead to, a request that gives a line back has
found candidates for the line that it works on. One of them is in the line exactly if there is no cycle, or there is one
candidate only, or the next candidate of the cycle is still among them. Otherwise the line shows that next candidate,
which was found when the cycle began. -/
theorem offered_now_iff (r : Registry) (events : List Event) (input text : String)
    (h : (((fresh r).undergoAll events).complete input).result = .ok (some text)) :
    let s := (fresh r).undergoAll events
    let line := Cycle.baseLine s.cycle input
    ∃ cs, s.offers line = .ok cs ∧
      ((∃ candidate ∈ cs, text = Line.replaceLast line candidate) ↔
        ∀ c, s.cycle = some c → cs.length = 1 ∨ c.advanced.current ∈ cs) ∧
      ∀ c, s.cycle = some c → cs.length ≠ 1 →
        c.advanced.current ∈ c.candidates ∧ text = Line.replaceLast line c.advanced.current := by
  intro s line
  have hsound := fresh_undergoAll_sound r events
  obtain ⟨cs, hcs, hcases⟩ := offered_cases hsound h
  refine ⟨cs, hcs, ?_⟩
  rcases hcases with ⟨hidle, candidate, hmem, rfl⟩ | ⟨c, hcycle, hcases⟩
  · have hnone : ∀ c, s.cycle ≠ some c := by
      intro c hc
      rw [hidle] at hc
      cases hc
    have hline : line = input := by
      show Cycle.baseLine s.cycle input = input
      rw [hidle]
      rfl
    refine ⟨⟨fun _ c hc => absurd hc (hnone c), fun _ => ⟨candidate, hmem, by rw [hline]⟩⟩, ?_⟩
    exact fun c hc => absurd hc (hnone c)
  · have hline : line = c.line := by
      show Cycle.baseLine s.cycle input = c.line
      rw [hcycle]
      rfl
    rw [hline]
    have honly : ∀ d, s.cycle = some d → d = c := by
      intro d hd
      rw [hcycle] at hd
      exact (Option.some.inj hd).symm
    rcases hcases with ⟨candidate, rfl, rfl⟩ | ⟨hseveral, rfl⟩
    · refine ⟨⟨fun _ _ _ => Or.inl rfl, fun _ => ⟨candidate, List.mem_cons_self, rfl⟩⟩, fun _ _ hone => ?_⟩
      exact absurd rfl hone
    · refine ⟨⟨?_, fun hmet => ?_⟩, fun d hd _ => ?_⟩
      · rintro ⟨candidate, hmem, htext⟩ d hd
        rw [honly d hd, Line.replaceLast_injective _ htext]
        exact Or.inr hmem
      · rcases hmet c hcycle with hone | hmem
        · omega
        · exact ⟨_, hmem, rfl⟩
      · rw [honly d hd]
        exact ⟨(hsound c hcycle).advanced.current_mem, rfl⟩

namespace RemovedName

/-- A command without a completer. -/
def plain (name : String) : Command := { name, action := fun _ => .done, usage := .string name }

/-- Three commands that begin in the same way. -/
def loaded : Registry := ⟨[⟨"load", plain "load", 0⟩, ⟨"lock", plain "lock", 0⟩, ⟨"look", plain "look", 0⟩]⟩

end RemovedName

open RemovedName in
/-- The last of three commands is removed during a cycle; the second one is offered next, and still found. -/
theorem offered_now_iff_lastRemoved :
    let s := (fresh loaded).undergoAll [.request "lo", .unregistered "look"]
    let line := Cycle.baseLine s.cycle "load"
    (s.complete "load").result = .ok (some "lock") ∧
      ∃ cs, s.offers line = .ok cs ∧
        ((∃ candidate ∈ cs, "lock" = Line.replaceLast line candidate) ↔
          ∀ c, s.cycle = some c → cs.length = 1 ∨ c.advanced.current ∈ cs) ∧
        ∀ c, s.cycle = some c → cs.length ≠ 1 →
          c.advanced.current ∈ c.candidates ∧ "lock" = Line.replaceLast line c.advanced.current :=
  ⟨by rfl, offered_now_iff loaded [.request "lo", .unregistered "look"] "load" "lock" (by rfl)⟩

open RemovedName in
/-- The second of three commands is removed during a cycle: its name is offered next all the same, although the request
finds the other two only. -/
theorem unregistered_name_offered :
    let s := (fresh loaded).undergoAll [.request "lo", .unregistered "lock"]
    let line := Cycle.baseLine s.cycle "load"
    (s.complete "load").result = .ok (some "lock") ∧ s.registry.contains "lock" = false ∧
      s.offers line = .ok ["load", "look"] ∧
      ∀ candidate ∈ ["load", "look"], Line.replaceLast line candidate ≠ "lock" :=
  ⟨by rfl, by rfl, by rfl, by decide +kernel⟩

end Completion

end CommandConsole
