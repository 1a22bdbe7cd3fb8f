import CommandConsole.Text.Point

/-!
# Writing JSON

The stored form of a history: a list of strings with a comma and a blank between them, in ASCII. What is not printable ASCII
is written by its UTF-16 units, so two surrogates in a row are written as the character that they are the units of.
-/

namespace CommandConsole.Json

/-- A sixteen-bit unit as an escape. -/
def unitEscape (n : Nat) : List Char := '\\' :: 'u' :: hexDigits 4 n

/-- How one character is written inside a string. -/
def encodeChar (c : Char) : List Char :=
  if c = '"' then ['\\', '"']
  else if c = '\\' then ['\\', '\\']
  else if c = '\n' then ['\\', 'n']
  else if c = '\r' then ['\\', 'r']
  else if c = '\t' then ['\\', 't']
  else if c = '\x0c' then ['\\', 'f']
  else if c = '\x08' then ['\\', 'b']
  else if ' ' ≤ c ∧ c ≤ '~' then [c]
  else if c.toNat < 0x10000 then unitEscape c.toNat
  else
    let n := c.toNat - 0x10000
    unitEscape (0xD800 + n / 0x400) ++ unitEscape (0xDC00 + n % 0x400)

/-- How one code point is written inside a string. -/
def encodePoint : Point → List Char
  | .char c => encodeChar c
  | .lone offset => unitEscape (Point.firstSurrogate + offset)

/-- Code points as a JSON string. -/
def encodePoints (ps : List Point) : List Char := '"' :: ps.flatMap encodePoint ++ ['"']

/-- A text as a JSON string. -/
def encodeString (s : String) : List Char := encodePoints (pointsOf s)

/-- Texts of code points as a JSON list. -/
def encodeTexts (texts : List (List Point)) : String :=
  String.ofList ('[' :: [',', ' '].intercalate (texts.map encodePoints) ++ [']'])

/-- Texts as a JSON list. -/
def encodeStrings (texts : List String) : String := encodeTexts (texts.map pointsOf)

end CommandConsole.Json
