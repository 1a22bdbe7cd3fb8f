import CommandConsole.Command.Script
import CommandConsole.Text.Lines

/-!
# Surfaces

A surface shows output and holds the input line. `Output` is what a console sends to it; `Transcript` is a surface that only
keeps what is on display.
-/

namespace CommandConsole

/-- What a console sends to its surface. -/
inductive Output where
  | write (text : String)
  | clear
  | setInput (text : String)
  | setColors (colors : Colors)
  deriving Repr, DecidableEq

/-- The side of a surface that a console sees: the input line, whether colours can be shown, and the output that was sent
and not yet taken. A surface that `reports` tells the console of each change of its input line at once. Changing the input
line may meet a fault, but the line is changed all the same. -/
structure Surface where
  input : String := ""
  paints : Bool := true
  reports : Bool := false
  changeFault : Option Fault := none
  output : List Output := []

namespace Surface

/-- Sends output. -/
def send (s : Surface) (o : Output) : Surface := { s with output := s.output ++ [o] }

/-- Replaces the input line. -/
def setInput (s : Surface) (text : String) : Surface := { s.send (.setInput text) with input := text }

/-- What putting a text into the input line meets; where the line does not change there is no fault. -/
def faultOfInput (s : Surface) (text : String) : Except Fault Unit :=
  match s.changeFault with
  | some f => if text = s.input then .ok () else .error f
  | none => .ok ()

/-- Shows colours, if the surface can. -/
def setColors (s : Surface) (colors : Colors) : Surface := if s.paints then s.send (.setColors colors) else s

/-- The surface after its output was taken. -/
def taken (s : Surface) : Surface := { s with output := [] }

end Surface

/-- The text on display and how often the display was cleared. -/
structure Transcript where
  text : String := ""
  clears : Nat := 0
  deriving Repr, DecidableEq

namespace Transcript

/-- Shows one piece of output. -/
def add (t : Transcript) : Output → Transcript
  | .write text => { t with text := t.text ++ text }
  | .clear => ⟨"", t.clears + 1⟩
  | _ => t

/-- Shows output. -/
def addAll (t : Transcript) (os : List Output) : Transcript := os.foldl add t

/-- The lines on display. -/
def lines (t : Transcript) : List String := splitLines t.text

end Transcript

end CommandConsole
