import CommandConsole.Command.Script
import CommandConsole.Terminal.Escape

/-!
# Styles

Styles are named escape sequences. `styled` puts a text into styles and switches them off at its end. A `Screen` is where
text is printed: it takes escape sequences or gets texts without them.
-/

namespace CommandConsole

/-- The colours that have a style, and the last digit of their sequences. -/
def styleColors : List (String × String) :=
  [("black", "0"), ("red", "1"), ("green", "2"), ("yellow", "3"), ("blue", "4"), ("magenta", "5"), ("cyan", "6"),
   ("white", "7")]

/-- The escape sequence with one parameter that sets a style. -/
def styleSequence (parameter : String) : String := "\x1b[" ++ parameter ++ "m"

/-- The sequence that switches all styles off. -/
def resetSequence : String := styleSequence "0"

/-- The styles and their sequences. -/
def styles : List (String × String) :=
  [("reset", resetSequence), ("bold", styleSequence "1"), ("dim", styleSequence "2"),
   ("bright_black", styleSequence "90"), ("bright_green", styleSequence "92")]
    ++ styleColors.map (fun (name, digit) => (name, styleSequence ("3" ++ digit)))
    ++ styleColors.map (fun (name, digit) => ("bg_" ++ name, styleSequence ("4" ++ digit)))

/-- The sequences of the styles that are known among some names. -/
def sequencesOf (names : List String) : String := String.join (names.filterMap fun name => styles.lookup name)

/-- A text in some styles; without a known style it stays as it is. -/
def styled (text : String) (names : List String) : String :=
  let sequences := sequencesOf names
  if sequences.isEmpty then text else sequences ++ text ++ resetSequence

/-- The names of the styles for the colours of a text. -/
def Colors.styleNames (c : Colors) : List String :=
  let named (color : Option String) : Option String := color.filter (! String.isEmpty ·)
  (named c.foreground).toList ++ ((named c.background).map ("bg_" ++ ·)).toList

/-- Where text is printed. -/
structure Screen where
  /-- Escape sequences are shown; without it they are dropped. -/
  showsEscapes : Bool
  /-- All that was printed. -/
  text : String := ""
  deriving Repr, DecidableEq

namespace Screen

/-- A terminal shows escape sequences unless the wish for no colour is expressed. -/
def accepts (noColor : Option String) (isTerminal : Bool) : Bool := (noColor.getD "").isEmpty && isTerminal

/-- Prints characters as they are. -/
def put (s : Screen) (text : String) : Screen := { s with text := s.text ++ text }

/-- Prints a line. -/
def printLine (s : Screen) (line : String) : Screen :=
  s.put ((if s.showsEscapes then line else stripEscapes line) ++ "\n")

/-- The sequence that clears the screen and goes to its beginning. -/
def clearSequence : String := "\x1b[2J\x1b[H"

/-- Clears the screen, if it shows escape sequences. -/
def clear (s : Screen) : Screen := if s.showsEscapes then s.put clearSequence else s

end Screen

end CommandConsole
