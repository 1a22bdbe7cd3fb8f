import CommandConsole.Calendar
import CommandConsole.Number.Binary64
import CommandConsole.Text.Integer
import CommandConsole.Json.Token

/-!
# Words of a TOML document

The parts of a document that hold no other values: blanks and comments, keys, strings, numbers, dates and times. Each scanner
takes the characters that are left and gives what it found together with the characters after it.
-/

namespace CommandConsole.Toml

/-- Why a document cannot be read. -/
inductive Error where
  | malformed
  | tooManyDigits (digits : Nat)
  | tooDeep
  deriving Repr, DecidableEq

/-- The document is not well formed here. -/
def malformed {α : Type} : Except Error α := .error .malformed

/-- A blank inside a line. -/
def isSpace (c : Char) : Bool := c = ' ' || c = '\t'

/-- A blank or the end of a line. -/
def isSpaceOrNewline (c : Char) : Bool := isSpace c || c = '\n'

/-- A control character that may stand neither in a comment nor in a string of one line. -/
def isControl (c : Char) : Bool := (c.toNat < 32 && c ≠ '\t') || c.toNat = 127

/-- A control character that may not stand in a string of several lines. -/
def isBlockControl (c : Char) : Bool := isControl c && c ≠ '\n'

/-- Skips blanks inside a line. -/
def skipSpaces (cs : List Char) : List Char := cs.dropWhile isSpace

/-- Skips a comment, up to the end of its line. -/
def skipComment : List Char → Except Error (List Char)
  | '#' :: cs =>
    if (cs.takeWhile (· ≠ '\n')).any isControl then malformed else .ok (cs.dropWhile (· ≠ '\n'))
  | cs => .ok cs

/-- Skips blanks, ends of lines and comments; `fuel` bounds the number of comments. -/
def skipFiller : Nat → List Char → Except Error (List Char)
  | 0, cs => .ok cs
  | fuel + 1, cs => do
    let cs := cs.dropWhile isSpaceOrNewline
    match cs with
    | '#' :: _ => skipFiller fuel (← skipComment cs)
    | _ => .ok cs

/-- Skips all that may stand between the items of a list. -/
def skipBetween (cs : List Char) : Except Error (List Char) := skipFiller (cs.length + 1) cs

/-! ## Strings -/

/-- The character of a hexadecimal escape of some digits. -/
def hexEscape (count : Nat) (cs : List Char) : Except Error (Char × List Char) :=
  let digits := cs.take count
  match digits.mapM Json.hexValue? with
  | none => malformed
  | some ds =>
    let n := ofDigits 16 ds
    if ds.length = count ∧ n.isValidChar then .ok (Char.ofNat n, cs.drop count) else malformed

/-- The character of an escape, after its backslash. -/
def escape : List Char → Except Error (Char × List Char)
  | 'b' :: cs => .ok ('\x08', cs)
  | 't' :: cs => .ok ('\t', cs)
  | 'n' :: cs => .ok ('\n', cs)
  | 'f' :: cs => .ok ('\x0c', cs)
  | 'r' :: cs => .ok ('\r', cs)
  | '"' :: cs => .ok ('"', cs)
  | '\\' :: cs => .ok ('\\', cs)
  | 'u' :: cs => hexEscape 4 cs
  | 'U' :: cs => hexEscape 8 cs
  | _ => malformed

/-- The rest of a string of one line between double quotes. -/
def basicString : Nat → List Char → List Char → Except Error (String × List Char)
  | 0, _, _ => malformed
  | _ + 1, _, [] => malformed
  | fuel + 1, seen, c :: cs =>
    if c = '"' then .ok (String.ofList seen.reverse, cs)
    else if c = '\\' then do
      let (d, cs) ← escape cs
      basicString fuel (d :: seen) cs
    else if isControl c then malformed
    else basicString fuel (c :: seen) cs

/-- Skips a line end that a backslash hides, with the blanks around it; the end of the document hides like a line end. -/
def skipHidden (cs : List Char) : Except Error (List Char) :=
  match skipSpaces cs with
  | [] => .ok []
  | '\n' :: rest => .ok (rest.dropWhile isSpaceOrNewline)
  | _ => malformed

/-- The rest of a string of several lines between double quotes, up to and without the three quotes at its end. -/
def basicBlock : Nat → List Char → List Char → Except Error (List Char × List Char)
  | 0, _, _ => malformed
  | _ + 1, _, [] => malformed
  | _ + 1, seen, '"' :: '"' :: '"' :: cs => .ok (seen.reverse, cs)
  | fuel + 1, seen, '\\' :: cs =>
    match cs with
    | c :: _ =>
      if isSpaceOrNewline c then do basicBlock fuel seen (← skipHidden cs)
      else do
        let (d, cs) ← escape cs
        basicBlock fuel (d :: seen) cs
    | [] => malformed
  | fuel + 1, seen, c :: cs => if isBlockControl c then malformed else basicBlock fuel (c :: seen) cs

/-- The rest of a string of one line between single quotes. -/
def literalString (cs : List Char) : Except Error (String × List Char) :=
  let body := cs.takeWhile (· ≠ '\'')
  match cs.drop body.length with
  | _ :: rest => if body.any isControl then malformed else .ok (String.ofList body, rest)
  | [] => malformed

/-- The rest of a string of several lines between single quotes, up to and without the three quotes at its end. -/
def literalBlock : List Char → List Char → Except Error (List Char × List Char)
  | _, [] => malformed
  | seen, '\'' :: '\'' :: '\'' :: cs => .ok (seen.reverse, cs)
  | seen, c :: cs => if isBlockControl c then malformed else literalBlock (c :: seen) cs

/-- A string of several lines, with up to two quotes right before the three that end it. -/
def endBlock (mark : Char) : List Char × List Char → String × List Char
  | (body, a :: b :: rest) =>
    if a = mark then
      if b = mark then (String.ofList (body ++ [a, b]), rest) else (String.ofList (body ++ [a]), b :: rest)
    else (String.ofList body, a :: b :: rest)
  | (body, [a]) => if a = mark then (String.ofList (body ++ [a]), []) else (String.ofList body, [a])
  | (body, []) => (String.ofList body, [])

/-- Skips the line end right after the three quotes that begin a string. -/
def skipFirstNewline : List Char → List Char
  | '\n' :: cs => cs
  | cs => cs

/-- A string of any of the four kinds. -/
def string (cs : List Char) : Except Error (String × List Char) :=
  let fuel := cs.length + 1
  match cs with
  | '"' :: '"' :: '"' :: rest => do return endBlock '"' (← basicBlock fuel [] (skipFirstNewline rest))
  | '"' :: rest => basicString fuel [] rest
  | '\'' :: '\'' :: '\'' :: rest => do return endBlock '\'' (← literalBlock [] (skipFirstNewline rest))
  | '\'' :: rest => literalString rest
  | _ => malformed

/-! ## Keys -/

/-- A character of a key without quotes. -/
def isBareKeyChar (c : Char) : Bool := c.isAlphanum || c = '-' || c = '_'

/-- One part of a key. -/
def keyPart (cs : List Char) : Except Error (String × List Char) :=
  match cs with
  | '"' :: rest => basicString (cs.length + 1) [] rest
  | '\'' :: rest => literalString rest
  | _ =>
    let bare := cs.takeWhile isBareKeyChar
    if bare.isEmpty then malformed else .ok (String.ofList bare, cs.drop bare.length)

/-- The parts of a key after the first; `fuel` bounds their number. -/
def keyRest : Nat → List String → List Char → Except Error (List String × List Char)
  | 0, _, _ => malformed
  | fuel + 1, parts, cs =>
    match skipSpaces cs with
    | '.' :: rest => do
      let (part, rest) ← keyPart (skipSpaces rest)
      keyRest fuel (part :: parts) rest
    | rest => .ok (parts.reverse, rest)

/-- A key: parts with dots between them. -/
def key (cs : List Char) : Except Error (List String × List Char) := do
  let (part, rest) ← keyPart cs
  keyRest (rest.length + 1) [part] rest

/-! ## Dates and times -/

/-- A number of exactly `count` decimal digits, within bounds. -/
def fixed? (count low high : Nat) (cs : List Char) : Option (Nat × List Char) := do
  let ds ← (cs.take count).mapM fun c => if c.isDigit then digitValue? c else none
  let n := ofDigits 10 ds
  if ds.length = count ∧ low ≤ n ∧ n ≤ high then some (n, cs.drop count) else none

/-- The characters after a given one. -/
def after? (c : Char) : List Char → Option (List Char)
  | [] => none
  | d :: cs => if d = c then some cs else none

/-- The millionths of a second after a point, from as many digits as there are; the point may be missing. -/
def fraction (cs : List Char) : Nat × List Char :=
  match cs with
  | '.' :: rest =>
    let ds := rest.takeWhile Char.isDigit
    if ds.isEmpty then (0, cs)
    else
      let six := (ds ++ List.replicate 6 '0').take 6
      (ofDigits 10 (six.filterMap digitValue?), rest.drop ds.length)
  | _ => (0, cs)

/-- A time of day. -/
def clock? (cs : List Char) : Option (Clock × List Char) := do
  let (hour, cs) ← fixed? 2 0 23 cs
  let (minute, cs) ← fixed? 2 0 59 (← after? ':' cs)
  let (second, cs) ← fixed? 2 0 59 (← after? ':' cs)
  let (micro, cs) := fraction cs
  some (⟨hour, minute, second, micro⟩, cs)

/-- An offset from universal time, in minutes. -/
def offset? (cs : List Char) : Option (Int × List Char) := do
  let signed (sign : Int) (cs : List Char) : Option (Int × List Char) := do
    let (hours, cs) ← fixed? 2 0 23 cs
    let (minutes, cs) ← fixed? 2 0 59 (← after? ':' cs)
    some (sign * (hours * 60 + minutes), cs)
  match cs with
  | 'Z' :: rest => some (0, rest)
  | 'z' :: rest => some (0, rest)
  | '+' :: rest => signed 1 rest
  | '-' :: rest => signed (-1) rest
  | _ => none

/-- A date as it is written; whether the calendar has it is another matter. -/
def date? (cs : List Char) : Option (Date × List Char) := do
  let (year, cs) ← fixed? 4 0 9999 cs
  let (month, cs) ← fixed? 2 1 12 (← after? '-' cs)
  let (day, cs) ← fixed? 2 1 31 (← after? '-' cs)
  some (⟨year, month, day⟩, cs)

/-- The time of day after a date, with its offset. -/
def timeAfterDate? : List Char → Option ((Clock × Option Int) × List Char)
  | [] => none
  | c :: cs =>
    if c = 'T' ∨ c = 't' ∨ c = ' ' then do
      let (t, cs) ← clock? cs
      match offset? cs with
      | some (o, cs) => some ((t, some o), cs)
      | none => some ((t, none), cs)
    else none

/-! ## Numbers -/

/-- The digits at the start of some characters, where single underscores may separate digits. -/
def digitRun (isDigit : Char → Bool) : List Char → List Char × List Char
  | [] => ([], [])
  | c :: '_' :: d :: rest =>
    if isDigit c then
      if isDigit d then
        let (ds, after) := digitRun isDigit (d :: rest)
        (c :: ds, after)
      else ([c], '_' :: d :: rest)
    else ([], c :: '_' :: d :: rest)
  | c :: cs =>
    if isDigit c then
      let (ds, after) := digitRun isDigit cs
      (c :: ds, after)
    else ([], c :: cs)

/-- The value of a run of digits in a base. -/
def runValue (base : Nat) (run : List Char) : Nat := ofDigits base (run.filterMap Json.hexValue?)

/-- An integer in base sixteen, eight or two. -/
def basedInteger? : List Char → Option (Nat × List Char)
  | '0' :: mark :: cs =>
    let read (base : Nat) (isDigit : Char → Bool) : Option (Nat × List Char) :=
      let (ds, rest) := digitRun isDigit cs
      if ds.isEmpty then none else some (runValue base ds, rest)
    if mark = 'x' then read 16 fun c => (Json.hexValue? c).isSome
    else if mark = 'o' then read 8 fun c => '0' ≤ c && c ≤ '7'
    else if mark = 'b' then read 2 fun c => c = '0' || c = '1'
    else none
  | _ => none

/-- A sign, and whether it is negative. -/
def sign : List Char → Bool × List Char
  | '-' :: cs => (true, cs)
  | '+' :: cs => (false, cs)
  | cs => (false, cs)

/-- The digits of a fraction, after a point; none if there are no digits. -/
def fractionDigits (cs : List Char) : List Char × List Char :=
  match cs with
  | '.' :: rest =>
    let (ds, after) := digitRun Char.isDigit rest
    if ds.isEmpty then ([], cs) else (ds, after)
  | _ => ([], cs)

/-- An exponent. -/
def exponent? : List Char → Option (Int × List Char)
  | [] => none
  | e :: cs =>
    if e = 'e' ∨ e = 'E' then
      let (negative, cs) := sign cs
      let (ds, after) := digitRun Char.isDigit cs
      let n := Int.ofNat (runValue 10 ds)
      if ds.isEmpty then none else some (if negative then -n else n, after)
    else none

/-- A number in decimal digits: an integer, or a floating-point number if it has a fraction or an exponent. -/
inductive Number where
  | int (n : Int)
  | float (x : Binary64)

/-- A number in decimal digits; `none` if there is none. -/
def decimal? (cs : List Char) : Except Error (Option (Number × List Char)) :=
  let (negative, cs) := sign cs
  let (whole, cs) := match cs with
    | '0' :: rest => (['0'], rest)
    | cs => digitRun Char.isDigit cs
  if whole.isEmpty then .ok none
  else
    let (digits, cs) := fractionDigits cs
    let power := exponent? cs
    let rest := (power.map (·.2)).getD cs
    if digits.isEmpty && power.isNone then
      if whole.length > maxDigits then .error (.tooManyDigits whole.length)
      else
        let n := Int.ofNat (runValue 10 whole)
        .ok (some (.int (if negative then -n else n), rest))
    else
      let e := (power.map (·.1)).getD 0
      .ok (some (.float (.ofDecimal negative (runValue 10 (whole ++ digits)) (e - digits.length)), rest))

/-- Infinity or no number, with or without a sign. -/
def special? (cs : List Char) : Option (Binary64 × List Char) :=
  let (negative, rest) := sign cs
  match rest with
  | 'i' :: 'n' :: 'f' :: after => some (.infinity negative, after)
  | 'n' :: 'a' :: 'n' :: after => some (.nan, after)
  | _ => none

end CommandConsole.Toml
