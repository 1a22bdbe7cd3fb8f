import CommandConsole.Proofs.Completion.Request
import CommandConsole.Proofs.Registry.Slots
import CommandConsole.Proofs.Text.Beginnings
import CommandConsole.Proofs.Text.Tokens

/-!
# Names that have been begun

Whoever types the beginning of a name is offered the name, but for one kind of beginnings: those that split the name
behind a sigma that ends a word there (`beginning_offered_iff`). Such a beginning has its sigma in the final form in
lower case and the name has not, so the name is not found (`beginning_missed`).
-/

namespace CommandConsole

/-- A line that is one word has this word as its only token. -/
theorem Line.splitForCompletion_of_isWord {typed : String} (h : IsWord typed) :
    Line.splitForCompletion typed = [typed] := by
  have htokens : AreTokens [typed] := ⟨[], typed, rfl, List.forall_mem_nil _, h.unbroken⟩
  have hagain : splitForCompletion (joinTokens [typed]) = [typed] := splitForCompletion_joinTokens htokens
  rwa [joinTokens, String.intercalate_singleton] at hagain

namespace Completion

/-- A request for a text offers a name: it shows the name and there is no cycle, or it leads to a cycle with several
candidates, of which the name is one, and shows the candidate that is applied. -/
def OffersName (s : Completion) (typed name : String) : Prop :=
  ((s.complete typed).state.cycle = none ∧ (s.complete typed).result = .ok (some name)) ∨
    ∃ cycle, (s.complete typed).state.cycle = some cycle ∧ 2 ≤ cycle.candidates.length ∧ name ∈ cycle.candidates ∧
      (s.complete typed).result = .ok (some cycle.current)

variable {s : Completion} {typed : String}

/-- A request for a word takes a turn with the names that begin with it. -/
theorem complete_word (hidle : s.cycle = none) (hword : IsWord typed) :
    (s.complete typed).state.cycle = (turn none typed (s.registry.matchPrefix typed)).1 ∧
      (s.complete typed).result = .ok (turn none typed (s.registry.matchPrefix typed)).2 := by
  have hline : Cycle.baseLine s.cycle typed = typed := by
    rw [hidle]
    rfl
  have hoffers : s.offers typed = .ok (s.registry.matchPrefix typed) := by
    simp [offers, Line.splitForCompletion_of_isWord hword, hword.filled]
  have hfinds := complete_finds hline hoffers
  rw [hidle] at hfinds
  exact hfinds

/-- Without a cycle, the names that are offered for a word are those that begin with it. -/
theorem offersName_iff (hidle : s.cycle = none) (hword : IsWord typed) {name : String} :
    s.OffersName typed name ↔ name ∈ s.registry.matchPrefix typed := by
  obtain ⟨hcycle, hresult⟩ := complete_word hidle hword
  have hshown : ∀ candidate, Line.replaceLast typed candidate = candidate := by
    intro candidate
    rw [Line.replaceLast, Line.splitForCompletion_of_isWord hword, replaceLast_singleton]
  rw [OffersName, hcycle, hresult]
  cases s.registry.matchPrefix typed with
  | nil => simp [turn]
  | cons first others =>
    cases others with
    | nil => simp [turn, hshown, eq_comm]
    | cons second others => simp [turn, hshown, Cycle.next]

/-- **Which beginnings of a name find it.** Nothing is being completed, and a command is registered. The beginning of its
name finds the name, and a request for it offers the name, exactly if it does not split the name behind a sigma that ends
a word there. -/
theorem beginning_offered_iff (events : List Registry.Event) (s : Completion)
    (hregistry : s.registry = ({} : Registry).undergoAll events) (hidle : s.cycle = none) (c : Command)
    (hc : c ∈ s.registry.commands) (typed rest : String) (htyped : typed ≠ "") (hname : c.name = typed ++ rest) :
    (c.key ∈ s.registry.matchPrefix typed ↔ ¬ SplitsSigma typed rest) ∧
      (s.OffersName typed c.key ↔ ¬ SplitsSigma typed rest) := by
  have hreached : Registry.Reached events s.registry := hregistry ▸ Registry.reached_undergoAll events
  obtain ⟨e, he, rfl⟩ := List.mem_map.mp hc
  have hkey : e.command.key ∈ s.registry.names := by
    rw [Registry.names, List.mem_map]
    exact ⟨e, he, hreached.keyed e he⟩
  have hword : IsWord typed := by
    refine ⟨htyped, fun d hd => (hreached.word e he).unbroken d ?_⟩
    rw [hname, String.toList_append]
    exact List.mem_append_left _ hd
  have hfound : e.command.key ∈ s.registry.matchPrefix typed ↔ ¬ SplitsSigma typed rest := by
    rw [hreached.slots.mem_matched, and_iff_right hkey, Definition.key, hname, lowerCase_prefix_iff]
  exact ⟨hfound, (offersName_iff hidle hword).trans hfound⟩

namespace Letters

/-- Completions over a registry with commands of some names. -/
def named (names : List String) : Completion where
  registry := ({} : Registry).undergoAll (names.map fun name => .drafted { name := .string name })

/-- A command that does nothing. -/
def command (name : String) : Command := { name, action := fun _ => .done, usage := .string name }

end Letters

set_option maxRecDepth 4000 in
open Letters in
/-- Up to the hyphen a word ends in the name too, so its last sigma has the same form there. One letter less begins two
names. -/
theorem beginning_offered_iff_wordEnd :
    let s := named ["ΣΑΣ-x", "σαν"]
    command "ΣΑΣ-x" ∈ s.registry.commands ∧ (command "ΣΑΣ-x").key = "σας-x" ∧
      (s.OffersName "ΣΑΣ" "σας-x" ↔ ¬ SplitsSigma "ΣΑΣ" "-x") ∧ (s.OffersName "ΣΑ" "σας-x" ↔ ¬ SplitsSigma "ΣΑ" "Σ-x") ∧
      s.registry.matchPrefix "ΣΑΣ" = ["σας-x"] ∧ s.registry.matchPrefix "ΣΑ" = ["σας-x", "σαν"] := by
  intro s
  have hc : command "ΣΑΣ-x" ∈ s.registry.commands := by
    have hcommands : s.registry.commands = [command "ΣΑΣ-x", command "σαν"] := by rfl
    rw [hcommands]
    exact List.mem_cons_self
  have hkey : (command "ΣΑΣ-x").key = "σας-x" := by decide +kernel
  have hwhole : (command "ΣΑΣ-x").name = "ΣΑΣ" ++ "-x" := by decide +kernel
  have hpart : (command "ΣΑΣ-x").name = "ΣΑ" ++ "Σ-x" := by decide +kernel
  have hends := (beginning_offered_iff _ s rfl rfl _ hc "ΣΑΣ" "-x" (by decide) hwhole).2
  have hinside := (beginning_offered_iff _ s rfl rfl _ hc "ΣΑ" "Σ-x" (by decide) hpart).2
  rw [hkey] at hends hinside
  exact ⟨hc, hkey, hends, hinside, by decide +kernel, by decide +kernel⟩

open Letters in
/-- A name is not found by what is typed of it up to a sigma inside. -/
theorem beginning_missed :
    let s := named ["ΑΣΑ"]
    command "ΑΣΑ" ∈ s.registry.commands ∧ (command "ΑΣΑ").name = "ΑΣ" ++ "Α" ∧ (command "ΑΣΑ").key = "ασα" ∧
      s.registry.matchPrefix "ΑΣ" = [] ∧ (s.complete "ΑΣ").result = .ok none := by
  intro s
  have hcommands : s.registry.commands = [command "ΑΣΑ"] := by rfl
  have hletters : ("ΑΣ".toList.all fun c => isBlank c == false) = true := by decide +kernel
  have hword : IsWord "ΑΣ" := ⟨by decide, fun c hc => beq_iff_eq.mp (List.all_eq_true.mp hletters c hc)⟩
  have hmissed : s.registry.matchPrefix "ΑΣ" = [] := by decide +kernel
  have hresult := (complete_word (s := s) rfl hword).2
  rw [hmissed] at hresult
  refine ⟨?_, by decide +kernel, by decide +kernel, hmissed, hresult⟩
  rw [hcommands]
  exact List.mem_cons_self

end Completion

end CommandConsole
