import CommandConsole.Text.Blank

/-!
# Lines

A text falls into lines at any of eleven line ends; a line end at the very end of the text opens no further line.
`unifyNewlines` is the coarser rule for files: a carriage return, alone or before a line feed, is a line feed.
-/

namespace CommandConsole

/-- The code points that end a line. -/
def lineEndChars : CodePoints := [(0xA, 0xD), (0x1C, 0x1E), (0x85, 0x85), (0x2028, 0x2029)]

/-- A character that ends a line. -/
def isLineEnd (c : Char) : Bool := lineEndChars.has c

/-- The lines of a list of characters, without their ends; a carriage return and a line feed are one end. -/
def lineRuns : List Char → List (List Char)
  | [] => []
  | '\r' :: '\n' :: cs => [] :: lineRuns cs
  | c :: cs => if isLineEnd c then [] :: lineRuns cs else consHead c (lineRuns cs)

/-- The lines of a text, without their ends. -/
def splitLines (s : String) : List String := (lineRuns s.toList).map String.ofList

/-- A list of characters with every carriage return, alone or before a line feed, turned into one line feed. -/
def unifyNewlines : List Char → List Char
  | [] => []
  | '\r' :: '\n' :: cs => '\n' :: unifyNewlines cs
  | c :: cs => (if c = '\r' then '\n' else c) :: unifyNewlines cs

/-- The pieces of a list between the occurrences of an item. -/
def piecesAt {α : Type} [DecidableEq α] (sep : α) : List α → List (List α)
  | [] => [[]]
  | c :: cs => if c = sep then [] :: piecesAt sep cs else consHead c (piecesAt sep cs)

end CommandConsole
