import CommandConsole.Fault
import CommandConsole.Value
import CommandConsole.Text.LowerCase
import CommandConsole.Text.Blank

/-!
# Directions

The two ways to move through a history, and the words for them.
-/

namespace CommandConsole

/-- A way to move through a history. -/
inductive Direction where
  | older
  | newer
  deriving Repr, DecidableEq

namespace Direction

/-- The name of a direction. -/
def name : Direction → String
  | older => "older"
  | newer => "newer"

/-- The words for the directions: their names, and the arrow keys. -/
def vocabulary : List (String × Direction) := [("up", older), ("down", newer), ("older", older), ("newer", newer)]

/-- The direction that a value names, in any case and between any blanks. -/
def parse (v : Value) : Except Fault Direction :=
  match v.written with
  | .error f => .error f
  | .ok text =>
    let word := lowerCase (strip text)
    match vocabulary.lookup word with
    | some d => .ok d
    | none => .error (.badValue s!"{quote word} is not a valid HistoryDirection")

end Direction

end CommandConsole
