import CommandConsole.Text.Lines
import CommandConsole.Text.UpperCase
import CommandConsole.Text.WordChar

/-!
# Lines of assignments

A file of assignments holds one `NAME = value` a line. Names count in upper case; blanks around name and value are dropped,
and so is one pair of quotes around the value. All other lines are skipped.
-/

namespace CommandConsole.DotEnv

/-- A character that a name may begin with. -/
def isNameStart (c : Char) : Bool := c.isAlpha || c = '_'

/-- The name at the start of a line, and what follows it. -/
def splitName : List Char → Option (List Char × List Char)
  | [] => none
  | c :: cs => if isNameStart c then some (c :: cs.takeWhile isWordChar, cs.dropWhile isWordChar) else none

/-- A value without the pair of quotes around it, if there is one. -/
def unquote (value : List Char) : List Char :=
  match value with
  | mark :: rest =>
    if (mark = '\'' ∨ mark = '"') ∧ rest.getLast? = some mark then rest.dropLast else value
  | [] => []

/-- The assignment of a line without outer blanks. -/
def assignment? (line : List Char) : Option (String × String) := do
  let (name, rest) ← splitName line
  match rest.dropWhile isBlank with
  | '=' :: value => some (upperCase (String.ofList name), String.ofList (unquote (stripBlanks value)))
  | _ => none

/-- The assignments of a file, in order. -/
def parse (file : List Char) : List (String × String) := (lineRuns file).filterMap fun line => assignment? (stripBlanks line)

end CommandConsole.DotEnv
