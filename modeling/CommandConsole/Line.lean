import CommandConsole.Text.Blank
import CommandConsole.Text.LowerCase

/-!
# Input lines

A line is a command name and arguments, set apart by blanks; there is no quoting. `splitCommand` reads a line that is
submitted, `splitForCompletion` one that is being typed: there a blank at the end opens one more, empty token.
-/

namespace CommandConsole.Line

/-- The command name of a line, in lower case, and its arguments; both are empty for a blank line. -/
def splitCommand (line : String) : String × List String :=
  match words line with
  | [] => ("", [])
  | name :: args => (lowerCase name, args)

/-- The last character of a line is a blank. -/
def endsBlank (line : String) : Bool :=
  match line.toList.getLast? with
  | none => false
  | some c => isBlank c

/-- The tokens of a line that is being typed; the last one is the token to complete, and there is always one. -/
def splitForCompletion (line : String) : List String :=
  match words line ++ (if endsBlank line then [""] else []) with
  | [] => [""]
  | tokens => tokens

/-- Tokens with single blanks between them. -/
def joinTokens (tokens : List String) : String := " ".intercalate tokens

end CommandConsole.Line
