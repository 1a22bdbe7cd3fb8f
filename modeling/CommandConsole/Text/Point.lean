import CommandConsole.Text.Quoted
import CommandConsole.Text.UpperCase

/-!
# Texts with surrogates

A file may spell half of a surrogate pair without the other half. There is no character for it, so a text that holds one is
a list of `Point`s that is no `String`: `Ragged`. Where such a text is shown as a `String`, U+FFFD stands for each of these
surrogates.
-/

namespace CommandConsole

/-- A code point of a text: a character, or a surrogate, given by how far it is behind the first one. -/
inductive Point where
  | char (c : Char)
  | lone (offset : Fin 0x800)
  deriving Repr, DecidableEq, Inhabited

/-- The code points of a text. -/
def pointsOf (s : String) : List Point := s.toList.map .char

namespace Point

/-- The first surrogate. -/
def firstSurrogate : Nat := 0xD800

/-- The code point of a number. -/
def ofNat (n : Nat) : Point :=
  if h : firstSurrogate ≤ n ∧ n - firstSurrogate < 0x800 then .lone ⟨n - firstSurrogate, h.2⟩ else .char (Char.ofNat n)

/-- A surrogate. -/
def isLone : Point → Bool
  | char _ => false
  | lone _ => true

/-- The character that stands for a code point where it is shown. -/
def shown : Point → Char
  | char c => c
  | lone _ => '\uFFFD'

/-- How a code point is written between quotes. -/
def quoted (mark : Char) : Point → List Char
  | char c => quoteChar mark c
  | lone offset => '\\' :: 'u' :: hexDigits 4 (firstSurrogate + offset)

/-- A code point in upper case; a surrogate has none. -/
def upper : Point → List Point
  | char c => (upperChar c).map .char
  | lone offset => [.lone offset]

end Point

/-- Code points as a text. -/
def shownText (ps : List Point) : String := String.ofList (ps.map Point.shown)

/-- Code points between quotes. -/
def quotePoints (ps : List Point) : String :=
  let mark := quoteFor (ps.map Point.shown)
  String.ofList (mark :: ps.flatMap (Point.quoted mark) ++ [mark])

/-- Code points in upper case. -/
def upperPoints (ps : List Point) : List Point := ps.flatMap Point.upper

/-- A text that is no `String`, since a surrogate stands in it. -/
structure Ragged where
  points : List Point
  isRagged : points.any Point.isLone = true
  deriving Repr, DecidableEq

end CommandConsole
