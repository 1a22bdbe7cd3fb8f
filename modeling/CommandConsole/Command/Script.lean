import CommandConsole.Fault
import CommandConsole.Value

/-!
# Commands and their scripts

A command is a name with an action, and optionally a validator of its arguments and a completer for them. An action turns
the arguments into a `Script`: the requests it puts to the console one after the other, each continued by what the console
answers. Requests that can fail answer with the fault and leave it to the script to go on or to stop; an interrupt ends the
script at once. A validator is a script too, which ends with a `Verdict`.

A script knows the arguments and the answers, and nothing else: actions that keep something of their own from one call to
the next, and actions that go on after an interrupt in a line that they have submitted, are no scripts.
-/

namespace CommandConsole

/-- The colours of the two layers of the console, where they have been picked. -/
structure Colors where
  foreground : Option String := none
  background : Option String := none
  deriving Repr, DecidableEq

/-- What is told of a registered command. -/
structure CommandInfo where
  key : String
  name : String
  description : Value
  usage : Value

/-- What a running command can see of its console. -/
structure View where
  commands : List CommandInfo
  entries : List String
  input : String
  prompt : String
  colors : Colors

/-- What a validator makes of the arguments: it may change them, and it accepts or rejects them. -/
structure Verdict where
  args : List String
  accepted : Bool
  deriving Repr, DecidableEq

/-- What a completer is asked: to complete the argument at `position` that begins with `partialArg`, given the arguments
before it, the registered names, and how often it has been asked before. -/
structure CompletionRequest where
  partialArg : String
  preceding : List String
  position : Nat
  names : List String
  asked : Nat
  deriving Repr, DecidableEq

/-- A source of candidates: any value whose items are texts, or the reason why there is none. -/
abbrev Completer := CompletionRequest → Except Stop Value

/-- A command: how it is called, shown and explained, what it does, and which arguments it does it for. -/
structure Definition (Action : Type) where
  name : String
  action : Action
  description : Value := .string ""
  usage : Value
  /-- The gate in front of the action. -/
  validator : Option Action := none
  completer : Option Completer := none

/-- Something put forward for registration: a command, or a value that is none. -/
inductive Candidate (Action : Type) where
  | command (d : Definition Action)
  | value (v : Value)

/-- What a command does: requests to the console, each continued by the answer. -/
inductive Script where
  /-- The script is finished; that of a validator says what it makes of the arguments. -/
  | done (verdict : Option Verdict := none)
  /-- The command fails or is interrupted. -/
  | stop (why : Stop)
  /-- Looks at the console. -/
  | look (next : View → Script)
  /-- Writes a text. -/
  | write (text : String) (next : Script)
  /-- Clears the output area. -/
  | clear (next : Script)
  /-- Calls the exit handler. -/
  | hide (next : Option Fault → Script)
  /-- Empties the history. -/
  | clearHistory (next : Script)
  /-- Changes the prompt symbol. -/
  | setPrompt (symbol : String) (next : Script)
  /-- Picks colours; a layer without one keeps its colour. -/
  | paint (colors : Colors) (next : Script)
  /-- Replaces the text of the input line without a report to the console. -/
  | setInput (text : String) (next : Option Fault → Script)
  /-- Reports an edit of the input line. -/
  | inputChanged (text : String) (next : Script)
  /-- Submits a line. -/
  | submit (line : String) (next : Except Fault Bool → Script)
  /-- Submits the input line. -/
  | submitInput (next : Except Fault Bool → Script)
  /-- Moves through the history. -/
  | navigate (direction : Value) (next : Except Fault String → Script)
  /-- Completes the input line. -/
  | complete (next : Option String → Script)
  /-- Records a line in the history. -/
  | record (line : String) (next : Bool → Script)
  /-- Registers a command. -/
  | register (candidate : Candidate (List String → Script)) (next : Option Fault → Script)
  /-- Removes a command and learns whether there was one. -/
  | unregister (name : String) (next : Bool → Script)
  deriving Inhabited

/-- What a command does with its arguments. -/
abbrev Action := List String → Script

/-- A gate in front of an action. -/
abbrev Validator := List String → Script

/-- A command of the console. -/
abbrev Command := Definition Action

namespace Script

/-- Writes a line. -/
def writeLine (text : String) (next : Script) : Script := write (text ++ "\n") next

/-- Writes lines, one after the other. -/
def writeLines (lines : List String) (next : Script) : Script := lines.foldr writeLine next

/-- Ends with a verdict on the arguments, or stops. -/
def judge (args : List String) : Except Stop Bool → Script
  | .ok accepted => done (some ⟨args, accepted⟩)
  | .error why => stop why

/-- Stops with a fault. -/
def fail (f : Fault) : Script := stop (.fault f)

/-- Writes lines, one after the other, up to the first one that there is a fault in the place of. -/
def writeFormed (next : Script) : List (Except Fault String) → Script
  | [] => next
  | .ok line :: rest => writeLine line (writeFormed next rest)
  | .error f :: _ => fail f

/-- Goes on, unless there is a fault. -/
def orFail (next : Script) : Option Fault → Script
  | none => next
  | some f => fail f

/-- Goes on with a result, unless there is a fault. -/
def thenWith {α : Type} (next : α → Script) : Except Fault α → Script
  | .ok a => next a
  | .error f => fail f

end Script

end CommandConsole
