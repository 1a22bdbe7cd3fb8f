import CommandConsole.Proofs.Completion.Request
import CommandConsole.Proofs.Session.Contained
import CommandConsole.Proofs.Session.Dispatch
import CommandConsole.Proofs.Text.Tokens

/-!
# Completed lines

A line is read in one way while it is being typed and in another one when it is submitted. Both find the same words in
it: the completer of a command is asked about the token at the end and told the arguments before it
(`complete_asks`), and the line with a candidate in place of this token is carried out by the same command, with the same
arguments before the candidate (`completed_line_obeyed`).
-/

namespace CommandConsole

namespace Completion

/-- The candidates in the answer of a completer, or what stops the request. -/
def heard : Except Stop Value → Except Stop (List String)
  | .error why => .error why
  | .ok v => (candidates? v).mapError .fault

/-- The registry is left as it is by candidates. -/
theorem apply_registry (s : Completion) (key : CycleKey) (base : String) (render : String → String) (cs : List String) :
    (s.apply key base render cs).1.registry = s.registry := by
  match cs with
  | [] | [_] | _ :: _ :: _ => rfl

variable {s : Completion} {input line name typed : String} {preceding : List String} {entry : Entry}
  {completer : Completer}

/-- With several tokens, what a request finds is what the completer of the command answers, and that it was asked is
counted. The completer is asked about the last token, and told the tokens between the first one and this. -/
theorem complete_asks (hline : Cycle.baseLine s.cycle input = line)
    (htokens : Line.splitForCompletion line = name :: (preceding ++ [typed]))
    (hentry : s.registry.entry? (lowerCase name) = some entry) (hcompleter : entry.command.completer = some completer) :
    ((s.complete input).state.cycle, (s.complete input).result) =
        outcome s.cycle line
          (heard (completer ⟨typed, preceding, preceding.length + 1, s.registry.names, entry.asked⟩)) ∧
      (s.complete input).state.registry = s.registry.noteAsked entry.key := by
  have hseveral : ∀ typed', Line.splitForCompletion line ≠ [typed'] := by
    simp [htokens]
  have hfound : s.registry.entry? (lowerCase (lowerCase ((Line.splitForCompletion line).head?.getD ""))) = some entry := by
    rw [htokens, lowerCase_lowerCase]
    exact hentry
  have hrequest : requestFor (Line.splitForCompletion line) s.registry.names entry.asked =
      ⟨typed, preceding, preceding.length + 1, s.registry.names, entry.asked⟩ := by
    simp [requestFor, htokens, List.getLast?_cons]
  constructor
  · have hoffers : s.offers line =
        heard (completer ⟨typed, preceding, preceding.length + 1, s.registry.names, entry.asked⟩) := by
      rw [← hrequest]
      simp only [offers, hfound, hcompleter]
      rfl
    rw [complete_outcome, hline, hoffers]
  · simp only [complete, hline, completeArgument, hfound, hcompleter]
    split
    · rfl
    · rfl
    · split
      · rfl
      · exact apply_registry _ _ _ _ _

end Completion

namespace Session

/-- **A completed line means what was completed.** A line that is being typed has several tokens, and its first one names
a command with a completer. Then a request asks the completer about the token at the end, which is empty exactly if the
line ends in a blank, and tells it the words between the first one and this token, and its position behind them; what
comes of the request is what the completer answers, and that it was asked once is all that changes in the registry. The
line with a word in place of this token has the same words but for this one, at the position that was told, and when it
is submitted, it is carried out by the same command: its validator and its action are run for the same arguments with this
word behind them. -/
theorem completed_line_obeyed (s : Session) (input line name typed : String) (preceding : List String) (entry : Entry)
    (completer : Completer) (hline : Cycle.baseLine s.completion.cycle input = line)
    (htokens : Line.splitForCompletion line = name :: (preceding ++ [typed]))
    (hentry : s.registry.entry? (lowerCase name) = some entry) (hcompleter : entry.command.completer = some completer) :
    let request : CompletionRequest := ⟨typed, preceding, preceding.length + 1, s.registry.names, entry.asked⟩
    let step := s.completion.complete input
    (typed = "" ↔ Line.endsBlank line = true) ∧
      words line = name :: preceding ++ (if Line.endsBlank line then [] else [typed]) ∧
      (step.state.cycle, step.result) =
        Completion.outcome s.completion.cycle line (Completion.heard (completer request)) ∧
      step.state.registry = s.registry.noteAsked entry.key ∧
      ∀ candidate, IsWord candidate →
        let completed := Line.replaceLast line candidate
        words completed = name :: (preceding ++ [candidate]) ∧ (words completed)[request.position]? = some candidate ∧
          ∀ s' : Session, s'.registry = step.state.registry →
            s'.registry.lookup name = some entry.command ∧
              ∀ depth,
                let begun := s'.beginLine (strip completed)
                let carried :=
                  begun.obey (submitWithin depth) (lowerCase name) entry.command (preceding ++ [candidate])
                submitWithin (depth + 1) s' completed = carried.1.endLine (strip completed) carried.2 ∧
                  begun.registry.lookup (lowerCase name) = some entry.command ∧
                    ∃ left ending,
                      Ends (submitWithin depth) begun (lowerCase name) (preceding ++ [candidate]) left ending ∧
                        Told left carried.1 ∧ carried.2 = ending.result := by
  intro request step
  obtain ⟨hempty, hwords⟩ := words_of_splitForCompletion htokens
  obtain ⟨houtcome, hregistry⟩ := Completion.complete_asks hline htokens hentry hcompleter
  refine ⟨hempty, hwords, houtcome, hregistry, ?_⟩
  intro candidate hcandidate completed
  have hspaced : Spaced (name :: (preceding ++ [candidate])) completed := spaced_replaced htokens hcandidate
  refine ⟨hspaced.words_eq, ?_, ?_⟩
  · rw [hspaced.words_eq]
    simp [request]
  · intro s' hs'
    have hlookup : s'.registry.lookup name = some entry.command := by
      rw [hs', hregistry]
      show (s.registry.noteAsked entry.key).command? (lowerCase name) = some entry.command
      rw [Registry.command?_noteAsked, Registry.command?, hentry]
      rfl
    refine ⟨hlookup, fun depth => ⟨submitWithin_spaced hlookup hspaced depth, ?_⟩⟩
    have hbegun : (s'.beginLine (strip completed)).registry.lookup (lowerCase name) = some entry.command := by
      rw [Registry.lookup, lowerCase_lowerCase]
      exact hlookup
    obtain ⟨left, ending, hends, htold, -, hresult⟩ :=
      obey_ends (submitWithin depth) hbegun (preceding ++ [candidate])
    exact ⟨hbegun, left, ending, hends, htold, hresult⟩

namespace Palette

/-- A command that writes its arguments, and offers words for the one that is asked about. -/
def pick : Command where
  name := "Pick"
  action args := .writeLines args .done
  usage := .string "pick"
  completer := some fun request =>
    .ok (.list [.string s!"{request.partialArg}Two", .string s!"{request.preceding.length}"])

/-- A console with this command. -/
def console : Session where
  completion := { registry := ({} : Registry).insert pick }
  history := { storage := {}, key := "lines", capacity := 3 }
  prompt := ">"

/-- A line with blanks of several kinds, also at its end. -/
def line : String := "\u2003PICK\u00A0One \t"

end Palette

open Palette in
/-- A blank at the end asks about one more argument, and the first one keeps its capital. -/
theorem completed_line_obeyed_blankEnd :
    Line.splitForCompletion line = "PICK" :: (["One"] ++ [""]) ∧
      console.registry.entry? (lowerCase "PICK") = some ⟨"pick", pick, 0⟩ ∧
      (console.completion.complete line).result = .ok (some "PICK One Two") ∧
      Line.replaceLast line "Two" = "PICK One Two" ∧
      ∃ s', s'.registry = (console.completion.complete line).state.registry ∧
        let carried := (s'.beginLine "PICK One Two").obey (submitWithin 246) "pick" pick ["One", "Two"]
        submit s' "PICK One Two" = carried.1.endLine "PICK One Two" carried.2 := by
  have htokens : Line.splitForCompletion line = "PICK" :: (["One"] ++ [""]) := by decide +kernel
  have hentry : console.registry.entry? (lowerCase "PICK") = some ⟨"pick", pick, 0⟩ := by rfl
  have hcompleted : Line.replaceLast line "Two" = "PICK One Two" := by decide +kernel
  obtain ⟨-, -, houtcome, -, hobeyed⟩ :=
    completed_line_obeyed console line line "PICK" "" ["One"] ⟨"pick", pick, 0⟩ _ rfl htokens hentry rfl
  have hresult : (console.completion.complete line).result = .ok (some "PICK One Two") := by
    rw [(Prod.mk.inj houtcome).2]
    decide +kernel
  have hwords : words "Two" = ["Two"] := by decide +kernel
  have hword : IsWord "Two" := isWord_of_mem_words (show "Two" ∈ words "Two" from hwords ▸ List.mem_singleton_self "Two")
  -- what is left of the request matters by its registry only
  generalize console.completion.complete line = step at hresult hobeyed ⊢
  obtain ⟨-, -, hsubmitted⟩ := hobeyed "Two" hword
  let s' : Session := { console with completion := step.state }
  refine ⟨htokens, hentry, hresult, hcompleted, s', rfl, ?_⟩
  have hdone := ((hsubmitted s' rfl).2 246).1
  rw [hcompleted] at hdone
  exact hdone

end Session

end CommandConsole
