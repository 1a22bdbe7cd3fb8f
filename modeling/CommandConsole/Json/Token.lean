import CommandConsole.Text.Integer
import CommandConsole.Text.Point
import CommandConsole.Number.Binary64

/-!
# Tokens of a JSON text

`tokens` cuts a text into marks, strings, numbers and words, one character at a time; characters that fit nowhere become
`bad` tokens, so cutting never fails. Inside a string the escapes are undone: those of the two halves of a surrogate pair
give one character, and a half that stands alone remains.
-/

namespace CommandConsole.Json

/-- A number as it is written: a sign, the digits of the integer, and a fraction or an exponent if it has them. -/
structure Numeral where
  negative : Bool
  whole : List Char
  fraction : List Char := []
  exponent : Int := 0
  integral : Bool
  deriving Repr, DecidableEq

/-- A token. -/
inductive Token where
  | mark (c : Char)
  | string (points : List Point)
  | number (n : Numeral)
  | word (s : String)
  | bad
  deriving Repr, DecidableEq

/-- What the next character belongs to. What has been collected is in reverse order. -/
inductive Mode where
  /-- Between tokens. -/
  | between
  /-- In a string. -/
  | string (seen : List Point)
  /-- In a string, after a backslash. -/
  | escape (seen : List Point)
  /-- In the four hexadecimal digits of an escape: the value so far and how many are missing; `high` is a first surrogate
  that waits for the second. -/
  | hex (seen : List Point) (high : Option Nat) (value missing : Nat)
  /-- In a string, after a first surrogate. -/
  | pair (seen : List Point) (high : Nat)
  /-- In a string, after a first surrogate and a backslash. -/
  | pairEscape (seen : List Point) (high : Nat)
  /-- In a number. -/
  | number (seen : List Char)
  /-- In a word. -/
  | word (seen : List Char)
  /-- After a fault inside a string: the rest is not looked at. -/
  | lost
  deriving Repr, DecidableEq

/-- The number at the start of some characters, and the characters after it. -/
def Numeral.scan? (cs : List Char) : Option (Numeral × List Char) :=
  let (negative, cs) := match cs with
    | '-' :: rest => (true, rest)
    | cs => (false, cs)
  let whole := match cs with
    | '0' :: _ => ['0']
    | cs => cs.takeWhile Char.isDigit
  if whole.isEmpty then none
  else
    let cs := cs.drop whole.length
    let fraction := match cs with
      | '.' :: rest => rest.takeWhile Char.isDigit
      | _ => []
    let cs := if fraction.isEmpty then cs else cs.drop (fraction.length + 1)
    let (sign, body, marks) := match cs with
      | e :: '+' :: rest => if e = 'e' ∨ e = 'E' then (1, rest, 2) else (1, [], 0)
      | e :: '-' :: rest => if e = 'e' ∨ e = 'E' then (-1, rest, 2) else (1, [], 0)
      | e :: rest => if e = 'e' ∨ e = 'E' then (1, rest, 1) else (1, [], 0)
      | [] => ((1 : Int), [], 0)
    let power := body.takeWhile Char.isDigit
    let cs := if power.isEmpty then cs else cs.drop (power.length + marks)
    let exponent := sign * Int.ofNat (ofDigits 10 (power.filterMap digitValue?))
    some (⟨negative, whole, fraction, exponent, fraction.isEmpty && power.isEmpty⟩, cs)

/-- The tokens of a run of characters that may stand in a number. -/
def numberTokens (run : List Char) : List Token :=
  match Numeral.scan? run with
  | none => [.bad]
  | some (n, []) => [.number n]
  | some (n, _ :: _) => [.number n, .bad]

/-- A character that may stand in a number. -/
def isNumberChar (c : Char) : Bool := c.isDigit || c = '+' || c = '-' || c = '.' || c = 'e' || c = 'E'

/-- The value of a hexadecimal digit. -/
def hexValue? (c : Char) : Option Nat :=
  if '0' ≤ c ∧ c ≤ '9' then some (c.toNat - '0'.toNat)
  else if 'a' ≤ c ∧ c ≤ 'f' then some (c.toNat - 'a'.toNat + 10)
  else if 'A' ≤ c ∧ c ≤ 'F' then some (c.toNat - 'A'.toNat + 10)
  else none

/-- Whether sixteen bits are the first half of a surrogate pair. -/
def isHighSurrogate (n : Nat) : Bool := 0xD800 ≤ n && n < 0xDC00

/-- Whether sixteen bits are the second half of a surrogate pair. -/
def isLowSurrogate (n : Nat) : Bool := 0xDC00 ≤ n && n < 0xE000

/-- The character of a surrogate pair. -/
def pairChar (high low : Nat) : Char := Char.ofNat (0x10000 + (high - 0xD800) * 0x400 + (low - 0xDC00))

/-- The character that a single-character escape stands for. -/
def unescape? : Char → Option Char
  | '"' => some '"'
  | '\\' => some '\\'
  | '/' => some '/'
  | 'b' => some '\x08'
  | 'f' => some '\x0c'
  | 'n' => some '\n'
  | 'r' => some '\r'
  | 't' => some '\t'
  | _ => none

/-- Reads a character between tokens. -/
def startToken (c : Char) : Mode × List Token :=
  if c = ' ' ∨ c = '\t' ∨ c = '\n' ∨ c = '\r' then (.between, [])
  else if c = '"' then (.string [], [])
  else if c.isDigit ∨ c = '-' then (.number [c], [])
  else if c.isAlpha then (.word [c], [])
  else if c ∈ ['\x7b', '\x7d', '[', ']', ',', ':'] then (.between, [.mark c])
  else (.between, [.bad])

/-- Reads a character inside a string. -/
def stepString (seen : List Point) (c : Char) : Mode × List Token :=
  if c = '"' then (.between, [.string seen.reverse])
  else if c = '\\' then (.escape seen, [])
  else if c.toNat < 0x20 then (.lost, [.bad])
  else (.string (.char c :: seen), [])

/-- The mode after the four digits of an escape. -/
def endHex (seen : List Point) : Option Nat → Nat → Mode
  | none, n => if isHighSurrogate n then .pair seen n else .string (.ofNat n :: seen)
  | some high, n =>
    if isLowSurrogate n then .string (.char (pairChar high n) :: seen)
    else if isHighSurrogate n then .pair (.ofNat high :: seen) n
    else .string (.ofNat n :: .ofNat high :: seen)

/-- Reads a character. -/
def stepMode : Mode → Char → Mode × List Token
  | .between, c => startToken c
  | .string seen, c => stepString seen c
  | .escape seen, c =>
    if c = 'u' then (.hex seen none 0 4, [])
    else
      match unescape? c with
      | some d => (.string (.char d :: seen), [])
      | none => (.lost, [.bad])
  | .hex seen high value missing, c =>
    match hexValue? c with
    | none => (.lost, [.bad])
    | some d =>
      if missing ≤ 1 then (endHex seen high (value * 16 + d), []) else (.hex seen high (value * 16 + d) (missing - 1), [])
  | .pair seen high, c =>
    if c = '\\' then (.pairEscape seen high, []) else stepString (.ofNat high :: seen) c
  | .pairEscape seen high, c =>
    if c = 'u' then (.hex seen (some high) 0 4, [])
    else
      match unescape? c with
      | some d => (.string (.char d :: .ofNat high :: seen), [])
      | none => (.lost, [.bad])
  | .number seen, c =>
    if isNumberChar c then (.number (c :: seen), [])
    else if seen = ['-'] ∧ c = 'I' then (.word [c, '-'], [])
    else
      let (mode, ts) := startToken c
      (mode, numberTokens seen.reverse ++ ts)
  | .word seen, c =>
    if c.isAlpha then (.word (c :: seen), [])
    else
      let (mode, ts) := startToken c
      (mode, .word (String.ofList seen.reverse) :: ts)
  | .lost, _ => (.lost, [])

/-- The tokens that the end of the text completes. -/
def endTokens : Mode → List Token
  | .between => []
  | .number seen => numberTokens seen.reverse
  | .word seen => [.word (String.ofList seen.reverse)]
  | .lost => []
  | _ => [.bad]

/-- The tokens of the characters that follow in a mode. -/
def tokensFrom (mode : Mode) : List Char → List Token
  | [] => endTokens mode
  | c :: cs => (stepMode mode c).2 ++ tokensFrom (stepMode mode c).1 cs

/-- The tokens of a text. -/
def tokens (s : String) : List Token := tokensFrom .between s.toList

end CommandConsole.Json
