import CommandConsole.Completion

/-!
# Completion requests

What a request does in terms of what it finds: `Completion.offers` gives the candidates for a line, the same for both
kinds of request, and `complete_outcome` says what becomes of the cycle and what is given back. All that matters of the
input line is the line that the request works on.
-/

namespace CommandConsole

/-- A line with its last token replaced by a candidate, and single blanks between the tokens. -/
def Line.replaceLast (line candidate : String) : String :=
  Completion.replaceLast (Line.splitForCompletion line) candidate

/-- What a cycle that begins at these tokens is about. -/
def CycleKey.ofTokens : List String → CycleKey
  | [typed] => .command (lowerCase typed)
  | tokens => .argument (lowerCase (tokens.head?.getD "")) (tokens.length - 1) (tokens.getLast?.getD "")

namespace Completion

/-- The candidates that a request for a line finds: the registered names for its only token, or what the completer of
the command offers for the last one of several. -/
def offers (s : Completion) (line : String) : Except Stop (List String) :=
  match Line.splitForCompletion line with
  | [typed] => .ok (if typed.isEmpty then [] else s.registry.matchPrefix typed)
  | tokens =>
    match s.registry.entry? (lowerCase (lowerCase (tokens.head?.getD ""))) with
    | none => .ok []
    | some entry =>
      match entry.command.completer with
      | none => .ok []
      | some completer =>
        match completer (requestFor tokens s.registry.names entry.asked) with
        | .error why => .error why
        | .ok v => (candidates? v).mapError .fault

/-- What candidates make of a cycle, and the line to show: none change nothing, a single one ends the cycle, of several
the next one is taken. -/
def turn (cycle : Option Cycle) (line : String) : List String → Option Cycle × Option String
  | [] => (cycle, none)
  | [c] => (none, some (Line.replaceLast line c))
  | cs =>
    let next := Cycle.next (.ofTokens (Line.splitForCompletion line)) cs line cycle
    (some next, some (Line.replaceLast line next.current))

/-- What a request makes of the cycle, and what it gives back, by what it finds for the line that it works on. -/
def outcome (cycle : Option Cycle) (line : String) :
    Except Stop (List String) → Option Cycle × Except Stop (Option String)
  | .ok cs => ((turn cycle line cs).1, .ok (turn cycle line cs).2)
  | .error (.fault _) => (cycle, .ok none)
  | .error why => (cycle, .error why)

/-! ## What a request does -/

/-- The candidate stands alone where there is one token only. -/
theorem replaceLast_singleton (typed candidate : String) : replaceLast [typed] candidate = candidate := by
  simp [replaceLast, Line.joinTokens]

/-- A turn with several candidates takes the next one of the cycle that follows. -/
theorem turn_several {cs : List String} (hcs : 2 ≤ cs.length) (cycle : Option Cycle) (line : String) :
    let next := Cycle.next (.ofTokens (Line.splitForCompletion line)) cs line cycle
    turn cycle line cs = (some next, some (Line.replaceLast line next.current)) := by
  match cs, hcs with
  | c :: d :: rest, _ => rfl

/-- Candidates are applied by taking a turn with them. -/
theorem apply_eq (s : Completion) {line : String} {render : String → String}
    (hrender : ∀ c, render c = Line.replaceLast line c) (cs : List String) :
    s.apply (.ofTokens (Line.splitForCompletion line)) line render cs =
      ({ s with cycle := (turn s.cycle line cs).1 }, (turn s.cycle line cs).2) := by
  match cs with
  | [] => rfl
  | [c] => simp [apply, turn, hrender]
  | c :: d :: rest => simp [apply, turn, hrender]

/-- A request for the only token of a line. -/
theorem completeName_outcome (s : Completion) {line typed : String} (htok : Line.splitForCompletion line = [typed]) :
    ((s.completeName typed line).1.cycle, .ok (s.completeName typed line).2) =
      outcome s.cycle line (s.offers line) := by
  by_cases hempty : typed.isEmpty = true
  · simp [offers, htok, completeName, hempty, outcome, turn]
  · have hrender : ∀ c, id c = Line.replaceLast line c := by
      intro c
      rw [Line.replaceLast, htok, replaceLast_singleton]
      rfl
    have happly := s.apply_eq hrender (s.registry.matchPrefix typed)
    rw [htok] at happly
    simp only [completeName, offers, htok, hempty]
    rw [show CycleKey.command (lowerCase typed) = .ofTokens [typed] from rfl]
    simp [happly, outcome]

/-- A request for the last one of several tokens: it asks the completer of the command, if there is one. -/
theorem completeArgument_outcome (s : Completion) {line : String}
    (htok : ∀ typed, Line.splitForCompletion line ≠ [typed]) :
    ((s.completeArgument (Line.splitForCompletion line) line).state.cycle,
      (s.completeArgument (Line.splitForCompletion line) line).result) = outcome s.cycle line (s.offers line) := by
  have hkey : CycleKey.ofTokens (Line.splitForCompletion line) =
      .argument (lowerCase ((Line.splitForCompletion line).head?.getD ""))
        ((Line.splitForCompletion line).length - 1) ((Line.splitForCompletion line).getLast?.getD "") := by
    simp only [CycleKey.ofTokens]
  simp only [completeArgument, offers]
  cases s.registry.entry? (lowerCase (lowerCase ((Line.splitForCompletion line).head?.getD ""))) with
  | none => rfl
  | some entry =>
    dsimp only
    cases entry.command.completer with
    | none => rfl
    | some completer =>
      dsimp only
      cases completer (requestFor (Line.splitForCompletion line) s.registry.names entry.asked) with
      | error why => cases why <;> rfl
      | ok v =>
        dsimp only
        cases candidates? v with
        | error f => rfl
        | ok cs =>
          have happly := apply_eq { s with registry := s.registry.noteAsked entry.key }
            (fun c => (rfl : replaceLast (Line.splitForCompletion line) c = Line.replaceLast line c)) cs
          rw [hkey] at happly
          simp only [requestFor, happly]
          rfl

/-- What a request does depends on what it finds for the line that it works on, and not on the input line otherwise. -/
theorem complete_outcome (s : Completion) (input : String) :
    ((s.complete input).state.cycle, (s.complete input).result) =
      outcome s.cycle (Cycle.baseLine s.cycle input) (s.offers (Cycle.baseLine s.cycle input)) := by
  by_cases htok : ∃ typed, Line.splitForCompletion (Cycle.baseLine s.cycle input) = [typed]
  · obtain ⟨typed, htok⟩ := htok
    rw [← s.completeName_outcome htok]
    simp only [complete, htok]
  · rw [not_exists] at htok
    rw [← s.completeArgument_outcome htok]
    simp only [complete]

/-- A request that finds candidates takes a turn with them. -/
theorem complete_finds {s : Completion} {input line : String} {cs : List String}
    (hline : Cycle.baseLine s.cycle input = line) (hcs : s.offers line = .ok cs) :
    (s.complete input).state.cycle = (turn s.cycle line cs).1 ∧
      (s.complete input).result = .ok (turn s.cycle line cs).2 := by
  have h := s.complete_outcome input
  rw [hline, hcs] at h
  exact Prod.mk.inj h

/-- A request without candidates, or with a completer that fails, gives nothing back and leaves the cycle as it is. -/
theorem complete_misses {s : Completion} {input line : String} (hline : Cycle.baseLine s.cycle input = line)
    (hnone : s.offers line = .ok [] ∨ ∃ f, s.offers line = .error (.fault f)) :
    (s.complete input).state.cycle = s.cycle ∧ (s.complete input).result = .ok none := by
  have h := s.complete_outcome input
  rw [hline] at h
  rcases hnone with hnone | ⟨f, hnone⟩ <;> rw [hnone] at h <;> exact Prod.mk.inj h

end Completion

end CommandConsole
