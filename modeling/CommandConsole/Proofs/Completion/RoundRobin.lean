import CommandConsole.Proofs.Completion.Request

/-!
# Candidates in turn

Requests that find the same several candidates each time go through them in order and start again after the last one,
whatever the input line is by then, and requests that find nothing in between change nothing (`requests_go_round`). The
cycle after `k` further requests that found the candidates is `Cycle.round cs line k`: the line of the first request and
its tokens stay, so a later request looks at the same line and goes on with the same cycle.
-/

namespace CommandConsole

namespace Completion

/-- A request for the completion of an input line, and the state that it meets. -/
structure Request where
  met : Completion
  input : String

namespace Request

/-- What the request does. -/
def step (q : Request) : Step Completion (Option String) := q.met.complete q.input

/-- What the request finds for the line that it works on. -/
def found (q : Request) : Except Stop (List String) := q.met.offers (Cycle.baseLine q.met.cycle q.input)

/-- The request finds candidates. -/
def finds (q : Request) : Bool :=
  match q.found with
  | .ok (_ :: _) => true
  | _ => false

/-- The request finds nothing: there are no candidates, or the completer fails or offers what cannot be gone through. -/
def Fails (q : Request) : Prop := q.found = .ok [] ∨ ∃ f, q.found = .error (.fault f)

/-- The line that the request gives back, if it gives one back. -/
def text? (q : Request) : Option String :=
  match q.step.result with
  | .ok text => text
  | .error _ => none

end Request

/-- Requests for input lines, one after the other. Before each of them, the registry has become any other one: a
completer may answer something else every time. -/
def requests (s : Completion) : List ((Registry → Registry) × String) → List Request
  | [] => []
  | (meanwhile, input) :: later =>
    let q : Request := ⟨{ s with registry := meanwhile s.registry }, input⟩
    q :: q.step.state.requests later

end Completion

/-- The cycle for a line that has taken its first candidate, after `k` more turns with the same candidates. -/
def Cycle.round (cs : List String) (line : String) (k : Nat) : Cycle :=
  { candidates := cs, index := k % cs.length, key := .ofTokens (Line.splitForCompletion line), line }

namespace Completion

/-- The line that shows the candidate of turn `k`. -/
def shownAt (cs : List String) (line : String) (k : Nat) : String :=
  Line.replaceLast line (Cycle.round cs line k).current

/-- Turn `k` shows candidate `k`, counted round. -/
theorem round_current {cs : List String} (hcs : 2 ≤ cs.length) (line : String) (k : Nat) :
    cs[k % cs.length]? = some (Cycle.round cs line k).current := by
  have hlt : k % cs.length < cs.length := Nat.mod_lt _ (by omega)
  simp [Cycle.round, Cycle.current, hlt]

/-- Several candidates begin a cycle at the first of them. -/
theorem turn_begin {cs : List String} (hcs : 2 ≤ cs.length) (line : String) :
    turn none line cs = (some (.round cs line 0), some (shownAt cs line 0)) := by
  rw [turn_several hcs]
  simp [shownAt, Cycle.next, Cycle.round]

/-- The same candidates again take the cycle to the next of them. -/
theorem turn_round {cs : List String} (hcs : 2 ≤ cs.length) (line : String) (k : Nat) :
    turn (some (.round cs line k)) line cs = (some (.round cs line (k + 1)), some (shownAt cs line (k + 1))) := by
  have hnext : Cycle.next (.ofTokens (Line.splitForCompletion line)) cs line (some (.round cs line k)) =
      .round cs line (k + 1) := by
    simp [Cycle.next, Cycle.round, Cycle.advanced]
  rw [turn_several hcs, hnext]
  rfl

/-- A request that finds the candidates of the cycle takes it to the next one and shows it. -/
theorem step_round {q : Request} {cs : List String} {line : String} {k : Nat} (hcs : 2 ≤ cs.length)
    (hcycle : q.met.cycle = some (.round cs line k)) (hfound : q.found = .ok cs) :
    q.step.state.cycle = some (.round cs line (k + 1)) ∧ q.text? = some (shownAt cs line (k + 1)) := by
  have hline : Cycle.baseLine q.met.cycle q.input = line := by
    rw [hcycle]
    rfl
  rw [Request.found, hline] at hfound
  obtain ⟨hstate, hresult⟩ := complete_finds hline hfound
  rw [hcycle, turn_round hcs] at hstate hresult
  refine ⟨hstate, ?_⟩
  rw [Request.text?, Request.step, hresult]

/-- A request that finds nothing gives nothing back and leaves the cycle as it is. -/
theorem step_fails {q : Request} (hfails : q.Fails) :
    q.step.result = .ok none ∧ q.step.state.cycle = q.met.cycle :=
  (complete_misses rfl hfails).symm

/-- A request that finds several candidates counts as one that finds. -/
theorem finds_of_found {q : Request} {cs : List String} (hcs : 2 ≤ cs.length) (hfound : q.found = .ok cs) :
    q.finds = true := by
  match cs, hcs with
  | c :: d :: rest, _ => simp [Request.finds, hfound]

/-- A request that fails does not count as one that finds, and gives nothing back. -/
theorem not_finds_of_fails {q : Request} (hfails : q.Fails) : q.finds = false ∧ q.text? = none := by
  constructor
  · rcases hfails with h | ⟨f, h⟩ <;> simp [Request.finds, h]
  · rw [Request.text?, (step_fails hfails).1]

/-- From turn `k` on, the requests that find the candidates show them one after the other. -/
theorem texts_of_round {cs : List String} {line : String} (hcs : 2 ≤ cs.length)
    (later : List ((Registry → Registry) × String)) :
    ∀ (s : Completion) (k : Nat), s.cycle = some (.round cs line k) →
      (∀ q ∈ s.requests later, q.found = .ok cs ∨ q.Fails) →
      (s.requests later).filterMap Request.text? =
        (List.range' (k + 1) ((s.requests later).countP Request.finds)).map (shownAt cs line) := by
  induction later with
  | nil =>
    intro s k _ _
    rfl
  | cons next later ih =>
    intro s k hcycle hall
    obtain ⟨meanwhile, input⟩ := next
    let q : Request := ⟨{ s with registry := meanwhile s.registry }, input⟩
    have hrequests : s.requests ((meanwhile, input) :: later) = q :: q.step.state.requests later := rfl
    rw [hrequests] at hall ⊢
    have hlater : ∀ r ∈ q.step.state.requests later, r.found = .ok cs ∨ r.Fails :=
      fun r hr => hall r (List.mem_cons_of_mem _ hr)
    rcases hall q List.mem_cons_self with hfound | hfails
    · obtain ⟨hstep, htext⟩ := step_round hcs hcycle hfound
      rw [List.filterMap_cons_some htext, List.countP_cons_of_pos (finds_of_found hcs hfound), List.range'_succ,
        List.map_cons, ih _ _ hstep hlater]
    · obtain ⟨hfinds, htext⟩ := not_finds_of_fails hfails
      have hstep : q.step.state.cycle = some (.round cs line k) := (step_fails hfails).2.trans hcycle
      rw [List.filterMap_cons_none htext, List.countP_cons_of_neg (by simp [hfinds]), ih _ _ hstep hlater]

/-- **Requests go through the candidates in turn.** When the first request for a line finds several candidates, and each
later one, with whatever input line, finds the same ones or fails, then the `k`-th line that is given back is the line
with its last token replaced by candidate `k`, counted round; as many are given back as requests find candidates; and a
request that fails gives nothing back and leaves the cycle as it is. -/
theorem requests_go_round (s : Completion) (line : String) (cs : List String)
    (later : List ((Registry → Registry) × String)) (hidle : s.cycle = none) (hfirst : s.offers line = .ok cs)
    (hcs : 2 ≤ cs.length)
    (hlater : ∀ q ∈ (s.complete line).state.requests later, q.found = .ok cs ∨ q.Fails) :
    let qs := (s.complete line).state.requests later
    let texts := ((⟨s, line⟩ : Request) :: qs).filterMap Request.text?
    texts.length = 1 + qs.countP Request.finds ∧
      (∀ k < texts.length, ∃ c, cs[k % cs.length]? = some c ∧
        texts[k]? = some (" ".intercalate ((Line.splitForCompletion line).dropLast ++ [c]))) ∧
      ∀ q ∈ qs, q.Fails → q.step.result = .ok none ∧ q.step.state.cycle = q.met.cycle := by
  intro qs texts
  obtain ⟨hstate, hresult⟩ := complete_finds (show Cycle.baseLine s.cycle line = line by rw [hidle]; rfl) hfirst
  rw [hidle, turn_begin hcs] at hstate hresult
  have htext : (⟨s, line⟩ : Request).text? = some (shownAt cs line 0) := by
    rw [Request.text?, Request.step, hresult]
  have htexts : texts = (List.range' 0 (1 + qs.countP Request.finds)).map (shownAt cs line) := by
    rw [Nat.add_comm, List.range'_succ, List.map_cons, ← texts_of_round hcs later _ 0 hstate hlater]
    exact List.filterMap_cons_some htext
  refine ⟨by rw [htexts, List.length_map, List.length_range'], ?_, fun q _ => step_fails⟩
  intro k hk
  refine ⟨_, round_current hcs line k, ?_⟩
  rw [htexts, List.length_map, List.length_range'] at hk
  rw [htexts, List.getElem?_map, List.getElem?_range' hk, Nat.zero_add, Nat.one_mul]
  rfl

namespace FlakyCompleter

/-- A completer that offers three candidates every other time, and otherwise fails once and then has no answer. -/
def answer (r : CompletionRequest) : Except Stop Value :=
  if r.asked % 2 = 0 then .ok (.list [.string "alpha", .string "beta", .string "gamma"])
  else if r.asked = 1 then .error (.fault (.badState "no answer"))
  else .ok .null

/-- Nobody has completed anything yet. -/
def idle : Completion where
  registry := ⟨[⟨"run",
    { name := "run", action := fun _ => .done, usage := .string "run", completer := some answer }, 0⟩]⟩

/-- Four more requests; a command is registered before the second of them. -/
def later : List ((Registry → Registry) × String) :=
  [(id, "run fast alpha"),
    (fun r => r.insert { name := "walk", action := fun _ => .done, usage := .string "walk" }, "walk"),
    (id, ""), (id, "run fast beta")]

end FlakyCompleter

open FlakyCompleter in
/-- Three requests find candidates, with a failure and a missing answer in between. -/
theorem requests_go_round_flaky :
    let qs := (idle.complete "Run  fast ").state.requests later
    let texts := ((⟨idle, "Run  fast "⟩ : Request) :: qs).filterMap Request.text?
    texts = ["Run fast alpha", "Run fast beta", "Run fast gamma"] ∧ texts.length = 1 + qs.countP Request.finds ∧
      (∀ k < texts.length, ∃ c, ["alpha", "beta", "gamma"][k % 3]? = some c ∧
        texts[k]? = some (" ".intercalate (["Run", "fast"] ++ [c]))) ∧
      ∀ q ∈ qs, q.Fails → q.step.result = .ok none ∧ q.step.state.cycle = q.met.cycle :=
  ⟨by rfl, requests_go_round idle "Run  fast " ["alpha", "beta", "gamma"] later rfl (by rfl) (by decide)
    (List.forall_mem_cons.mpr ⟨.inr (.inr ⟨_, rfl⟩), List.forall_mem_cons.mpr ⟨.inl rfl,
      List.forall_mem_cons.mpr ⟨.inr (.inl rfl), List.forall_mem_cons.mpr ⟨.inl rfl, fun _ h => nomatch h⟩⟩⟩⟩)⟩

end Completion

end CommandConsole
