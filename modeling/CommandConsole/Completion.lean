import CommandConsole.Command.Registry
import CommandConsole.Line

/-!
# Completion

A completion request replaces the input line: its only token by a registered name, or its last token by an argument that the
command's completer offers. When there are several candidates, repeated requests go through them in a `Cycle`; as long as it
lasts, the candidates are looked up for the line as it was before the first request. A completer that fails is noted and
changes nothing.
-/

namespace CommandConsole

/-- What a cycle is about: a name, or the argument at a position of a command. -/
inductive CycleKey where
  | command (typed : String)
  | argument (command : String) (position : Nat) (typed : String)
  deriving Repr, DecidableEq

/-- Candidates that are gone through, the one that is applied, and the line before the first request. -/
structure Cycle where
  candidates : List String
  index : Nat := 0
  key : CycleKey
  line : String
  deriving Repr, DecidableEq

namespace Cycle

/-- The candidate that is applied. -/
def current (c : Cycle) : String := (c.candidates[c.index]?).getD ""

/-- The cycle at its next candidate; after the last one comes the first. -/
def advanced (c : Cycle) : Cycle := { c with index := (c.index + 1) % c.candidates.length }

/-- The next state for a key: the cycle goes on if it is about the same, else a new one begins. -/
def next (key : CycleKey) (candidates : List String) (base : String) : Option Cycle → Cycle
  | some c => if c.key = key then c.advanced else { candidates, key, line := base }
  | none => { candidates, key, line := base }

/-- The line that a completion works on: that of the cycle, or the current one. -/
def baseLine (cycle : Option Cycle) (input : String) : String := (cycle.map (·.line)).getD input

end Cycle

/-- The state that completions change: the cycle, and the registry, which counts the questions to completers. -/
structure Completion where
  registry : Registry := {}
  cycle : Option Cycle := none

namespace Completion

/-- The texts that a completer's answer offers; a value that cannot be gone through is a fault, and so is an item that
cannot be written. -/
def candidates? (v : Value) : Except Fault (List String) :=
  if !v.truthy then .ok []
  else
    match v.items? with
    | some items => items.mapM Value.written
    | none => .error (.badType s!"'{v.kindName}' object is not iterable")

/-- The request for the last of several tokens. -/
def requestFor (tokens names : List String) (asked : Nat) : CompletionRequest where
  partialArg := tokens.getLast?.getD ""
  preceding := tokens.tail.dropLast
  position := tokens.length - 1
  names
  asked

/-- Tokens with the last one replaced, as a line. -/
def replaceLast (tokens : List String) (candidate : String) : String :=
  Line.joinTokens (tokens.dropLast ++ [candidate])

/-- Applies candidates: none changes nothing, a single one ends the cycle, of several the next one is taken. -/
def apply (s : Completion) (key : CycleKey) (base : String) (render : String → String) :
    List String → Completion × Option String
  | [] => (s, none)
  | [c] => ({ s with cycle := none }, some (render c))
  | cs =>
    let cycle := Cycle.next key cs base s.cycle
    ({ s with cycle := some cycle }, some (render cycle.current))

/-- Completes a command name. -/
def completeName (s : Completion) (typed base : String) : Completion × Option String :=
  if typed.isEmpty then (s, none)
  else s.apply (.command (lowerCase typed)) base id (s.registry.matchPrefix typed)

/-- The record of a completer that failed. -/
def failureNote (command : String) (f : Fault) : LogRecord :=
  ⟨.error, Channel.completion, s!"Error in tab completion for '{command}'", some f⟩

/-- Completes an argument of the command that the first token names. -/
def completeArgument (s : Completion) (tokens : List String) (base : String) : Step Completion (Option String) :=
  let command := lowerCase (tokens.head?.getD "")
  match s.registry.entry? (lowerCase command) with
  | none => ⟨s, [], .ok none⟩
  | some entry =>
    match entry.command.completer with
    | none => ⟨s, [], .ok none⟩
    | some completer =>
      let request := requestFor tokens s.registry.names entry.asked
      let s := { s with registry := s.registry.noteAsked entry.key }
      match completer request with
      | .error (.fault f) => ⟨s, [failureNote command f], .ok none⟩
      | .error why => ⟨s, [], .error why⟩
      | .ok v =>
        match candidates? v with
        | .error f => ⟨s, [failureNote command f], .ok none⟩
        | .ok cs =>
          let key := .argument command request.position request.partialArg
          let (s, line) := s.apply key base (replaceLast tokens) cs
          ⟨s, [], .ok line⟩

/-- Completes a line: gives the line to show in its place, or nothing. -/
def complete (s : Completion) (input : String) : Step Completion (Option String) :=
  let base := Cycle.baseLine s.cycle input
  match Line.splitForCompletion base with
  | [typed] =>
    let (s, line) := s.completeName typed base
    ⟨s, [], .ok line⟩
  | tokens => s.completeArgument tokens base

/-- Forgets the cycle. -/
def reset (s : Completion) : Completion := { s with cycle := none }

end Completion

end CommandConsole
