import CommandConsole.Text.CodePoints

/-!
# Blanks

The blanks separate the words of a line. `strip` takes them off both ends of a text, and `words` gives the runs of other
characters between them.
-/

namespace CommandConsole

/-- The code points of the blanks: spaces of every width, tabulators, line ends and the four information separators. -/
def blankChars : CodePoints :=
  [(0x9, 0xD), (0x1C, 0x20), (0x85, 0x85), (0xA0, 0xA0), (0x1680, 0x1680), (0x2000, 0x200A), (0x2028, 0x2029),
   (0x202F, 0x202F), (0x205F, 0x205F), (0x3000, 0x3000)]

/-- A character that separates words. -/
def isBlank (c : Char) : Bool := blankChars.has c

/-- A list of characters without the blanks at its two ends. -/
def stripBlanks (cs : List Char) : List Char :=
  ((cs.dropWhile isBlank).reverse.dropWhile isBlank).reverse

/-- A text without the blanks at its two ends. -/
def strip (s : String) : String := String.ofList (stripBlanks s.toList)

/-- Nothing but blanks, or nothing at all. -/
def allBlank (s : String) : Bool := s.toList.all isBlank

/-- Puts an item in front of the first of several pieces. -/
def consHead {α : Type} (c : α) : List (List α) → List (List α)
  | [] => [[c]]
  | piece :: rest => (c :: piece) :: rest

/-- The maximal runs of characters that are not blanks. -/
def wordRuns : List Char → List (List Char)
  | [] => []
  | c :: cs =>
    if isBlank c then wordRuns cs
    else
      match cs with
      | [] => [[c]]
      | d :: _ => if isBlank d then [c] :: wordRuns cs else consHead c (wordRuns cs)

/-- The words of a text. -/
def words (s : String) : List String := (wordRuns s.toList).map String.ofList

end CommandConsole
