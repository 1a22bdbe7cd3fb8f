/-!
# Escape sequences

A terminal takes its orders from escape sequences: an escape character, an opening bracket, parameters and a letter.
`stripEscapes` removes the sequences that it finds from left to right. `HasEscape` says that a text contains one.
-/

namespace CommandConsole

/-- A parameter of an escape sequence is made of these. -/
def isEscapeParameter (c : Char) : Bool := c.isDigit || c = ';'

/-- How many characters after an escape character belong to its sequence, if it begins one. -/
def escapeLength? (cs : List Char) : Option Nat :=
  match cs with
  | '[' :: rest =>
    match rest.dropWhile isEscapeParameter with
    | c :: _ => if c.isAlpha then some ((rest.takeWhile isEscapeParameter).length + 2) else none
    | [] => none
  | _ => none

/-- Drops some characters, then removes the escape sequences from those that are left. -/
def stripEscapesAfter : Nat → List Char → List Char
  | _, [] => []
  | skip + 1, _ :: cs => stripEscapesAfter skip cs
  | 0, c :: cs =>
    if c = '\x1b' then
      match escapeLength? cs with
      | some n => stripEscapesAfter n cs
      | none => c :: stripEscapesAfter 0 cs
    else c :: stripEscapesAfter 0 cs

/-- A text without its escape sequences. -/
def stripEscapes (s : String) : String := String.ofList (stripEscapesAfter 0 s.toList)

/-- Characters that make up one escape sequence. -/
inductive IsEscape : List Char → Prop
  | mk (parameters : List Char) (letter : Char) (h : ∀ c ∈ parameters, isEscapeParameter c = true)
      (hl : letter.isAlpha = true) : IsEscape ('\x1b' :: '[' :: (parameters ++ [letter]))

/-- Some part of a text is an escape sequence. -/
def HasEscape (cs : List Char) : Prop := ∃ before escape after, IsEscape escape ∧ cs = before ++ escape ++ after

end CommandConsole
