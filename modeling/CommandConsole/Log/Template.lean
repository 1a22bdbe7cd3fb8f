import CommandConsole.Number.Notation
import CommandConsole.Text.Integer
import CommandConsole.Value

/-!
# Message templates

A template is a text with directives, each a percent sign, options and a letter: the options say how wide the value is to be
and how it is aligned, the letter what it is written as. `fill` writes values in the place of the directives; it fails if
the values do not fit.
-/

namespace CommandConsole.Template

/-- A width or a precision: none, a number, or the next value. -/
inductive Measure where
  | absent
  | given (n : Nat)
  | next

/-- A directive. -/
structure Directive where
  /-- The key of the value, if the values have keys. -/
  key : Option String
  flags : List Char
  width : Measure
  precision : Measure
  letter : Char

/-- A piece of a template. -/
inductive Piece where
  | char (c : Char)
  | directive (d : Directive)

/-- A key and what follows the parenthesis that closes it; parentheses inside it are paired. -/
def closeKey : Nat → List Char → List Char → Option (String × List Char)
  | _, _, [] => none
  | depth, seen, c :: cs =>
    if c = ')' then
      match depth with
      | 0 => some (String.ofList seen.reverse, cs)
      | depth + 1 => closeKey depth (c :: seen) cs
    else closeKey (if c = '(' then depth + 1 else depth) (c :: seen) cs

/-- The key of a directive, if it has one. -/
def readKey (cs : List Char) : Option (Option String × List Char) :=
  match cs with
  | '(' :: rest => (closeKey 0 [] rest).map fun (key, rest) => (some key, rest)
  | _ => some (none, cs)

/-- A width or a precision. -/
def readMeasure (cs : List Char) : Measure × List Char :=
  match cs with
  | '*' :: rest => (.next, rest)
  | _ =>
    let ds := cs.takeWhile Char.isDigit
    if ds.isEmpty then (.absent, cs) else (.given (ofDigits 10 (ds.filterMap digitValue?)), cs.dropWhile Char.isDigit)

/-- A precision with its point; without a number it is zero. -/
def readPrecision (cs : List Char) : Measure × List Char :=
  match cs with
  | '.' :: rest =>
    match readMeasure rest with
    | (.absent, rest) => (.given 0, rest)
    | found => found
  | _ => (.absent, cs)

/-- A flag of a directive. -/
def isFlag (c : Char) : Bool := c = '-' || c = '+' || c = ' ' || c = '#' || c = '0'

/-- A size of a number, which does not count. -/
def skipSize (cs : List Char) : List Char :=
  match cs with
  | c :: rest => if c = 'h' ∨ c = 'l' ∨ c = 'L' then rest else cs
  | [] => []

/-- A directive, after its percent sign. -/
def readDirective (cs : List Char) : Option (Directive × List Char) := do
  let (key, cs) ← readKey cs
  let flags := cs.takeWhile isFlag
  let (width, cs) := readMeasure (cs.dropWhile isFlag)
  let (precision, cs) := readPrecision cs
  match skipSize cs with
  | letter :: rest => some (⟨key, flags, width, precision, letter⟩, rest)
  | [] => none

/-- The pieces of a template; two percent signs are one that is meant as such. `fuel` bounds the number of pieces. -/
def pieces : Nat → List Char → Option (List Piece)
  | 0, _ => none
  | _ + 1, [] => some []
  | fuel + 1, '%' :: '%' :: cs => do return .char '%' :: (← pieces fuel cs)
  | fuel + 1, c :: cs =>
    if c = '%' then do
      let (d, rest) ← readDirective cs
      return .directive d :: (← pieces fuel rest)
    else do return .char c :: (← pieces fuel cs)

/-- The values that are left to be written; values with keys are in a table. -/
structure Supply where
  rest : List Value
  table : Option Entries := none

/-- The next value. -/
def Supply.take (s : Supply) : Option (Value × Supply) :=
  match s.rest with
  | v :: rest => some (v, { s with rest })
  | [] => none

/-- A supply from which the value of a key is the next. -/
def Supply.select (s : Supply) (key : Option String) : Option Supply :=
  match key, s.table with
  | none, _ => some s
  | some k, some entries => (entries.lookup k).map fun v => { s with rest := [v] }
  | some _, none => none

/-- The number that a value counts as where a whole number is expected. -/
def wholeNumber? : Value → Option Int
  | .int n => some n
  | .bool b => some (if b then 1 else 0)
  | _ => none

/-- A number of characters beyond which no text is written. -/
def longestText : Nat := Nat.pow 10 8

/-- A width that there is room for. The least whole number of 64 bits, which has no counterpart, asks for none. -/
def width? (n : Int) : Option Int :=
  if n = -Int.pow 2 63 then some 0 else if n.natAbs ≤ longestText then some n else none

/-- A precision is a whole number of 32 bits; one below zero is zero. -/
def precision? (n : Int) : Option Nat := if -Int.pow 2 31 ≤ n ∧ n < Int.pow 2 31 then some n.toNat else none

/-- A width or a precision as a number. -/
def Supply.measure (s : Supply) : Measure → Option (Option Int × Supply)
  | .absent => some (none, s)
  | .given n => some (some n, s)
  | .next => do
    let (v, s) ← s.take
    return (some (← wholeNumber? v), s)

/-- The written form of a value: a sign and a mark of its base, its body, and whether it is a number. -/
structure Written where
  head : String := ""
  body : String
  isNumber : Bool := false

/-- The sign of a number that is not negative. -/
def plusSign (flags : List Char) : String :=
  if flags.contains '+' then "+" else if flags.contains ' ' then " " else ""

/-- A whole number in a base. -/
def writeInteger (flags : List Char) (precision : Option Nat) (base : Nat) (mark : String) (upper : Bool) (n : Int) :
    Written :=
  let ds := Nat.toDigits base n.natAbs
  let ds := List.replicate (precision.getD 0 - ds.length) '0' ++ ds
  { head := (if n < 0 then "-" else plusSign flags) ++ (if flags.contains '#' then mark else "")
    body := String.ofList (if upper then ds.map Char.toUpper else ds)
    isNumber := true }

/-- The whole part of a finite number. -/
def truncate (x : Binary64) : Option Int :=
  if x.isFinite then
    let n := Int.ofNat (x.fraction.1 / x.fraction.2)
    some (if x.negative then -n else n)
  else none

/-- The number that a value counts as where a floating-point number is expected; a whole number may be too large. -/
def float? : Value → Option Binary64
  | .float x => some x
  | v => do
    let n ← wholeNumber? v
    let x := Binary64.ofDecimal (n < 0) n.natAbs 0
    if x.isFinite then some x else none

/-- A precision that a floating-point number can be written with. In scientific form the greatest precision counts as zero,
since one digit more than it is more than 32 bits count. What has no digits, or drops those that are not needed, may have any
precision; other texts would be too long. -/
def floatPlaces? (pointed : Bool) (letter : Char) (x : Binary64) (precision : Nat) : Option Nat :=
  if letter.toLower = 'e' ∧ precision + 1 = Nat.pow 2 31 then some 0
  else if precision ≤ longestText ∨ ¬ x.isFinite ∨ (letter.toLower = 'g' ∧ ¬ pointed) then some precision
  else none

/-- A floating-point number in the notation of a letter. -/
def writeFloat (flags : List Char) (places : Nat) (letter : Char) (x : Binary64) : Written :=
  let pointed := flags.contains '#'
  let isNaN := !x.isFinite && x.fractionField ≠ 0
  let body :=
    if isNaN then "nan"
    else if !x.isFinite then "inf"
    else if letter.toLower = 'f' then x.fixedText pointed places
    else if letter.toLower = 'e' then x.scientificText pointed places
    else x.generalText pointed places
  { head := if x.negative && !isNaN then "-" else plusSign flags
    body := if letter.isUpper then String.ofList (body.toList.map Char.toUpper) else body
    isNumber := true }

/-- A text in which characters outside ASCII are escapes. -/
def escapeForeign (s : String) : String :=
  String.ofList (s.toList.flatMap fun c =>
    let n := c.toNat
    if n < 0x80 then [c]
    else if n < 0x100 then '\\' :: 'x' :: hexDigits 2 n
    else if n < 0x10000 then '\\' :: 'u' :: hexDigits 4 n
    else '\\' :: 'U' :: hexDigits 8 n)

/-- The beginning of a text, as long as the precision allows. -/
def cut (precision : Option Nat) (s : String) : Written :=
  match precision with
  | none => { body := s }
  | some n => { body := String.ofList (s.toList.take n) }

/-- The written form of a value under a letter. -/
def write (flags : List Char) (precision : Option Nat) (letter : Char) (v : Value) : Option Written :=
  let integer (base : Nat) (mark : String) (n : Option Int) : Option Written :=
    if precision.getD 0 ≤ longestText then n.map (writeInteger flags precision base mark letter.isUpper) else none
  if letter = 's' then v.written.toOption.map (cut precision)
  else if letter = 'r' then v.shown.toOption.map (cut precision)
  else if letter = 'a' then v.shown.toOption.map fun text => cut precision (escapeForeign text)
  else if letter = 'd' ∨ letter = 'i' ∨ letter = 'u' then
    match v with
    | .float x => integer 10 "" (truncate x)
    | _ => if v.isWritable then integer 10 "" (wholeNumber? v) else none
  else if letter = 'x' then integer 16 "0x" (wholeNumber? v)
  else if letter = 'X' then integer 16 "0X" (wholeNumber? v)
  else if letter = 'o' then integer 8 "0o" (wholeNumber? v)
  else if letter.toLower = 'e' ∨ letter.toLower = 'f' ∨ letter.toLower = 'g' then
    do
      let x ← float? v
      let places ← floatPlaces? (flags.contains '#') letter x (precision.getD 6)
      return writeFloat flags places letter x
  else if letter = 'c' then
    match v.text? with
    | some s => if s.length = 1 then some { body := s } else none
    | none => do
      let n ← wholeNumber? v
      if 0 ≤ n ∧ n.toNat.isValidChar then some { body := String.singleton (Char.ofNat n.toNat) } else none
  else none

/-- A written form in a width: zeros go between the head and the body, blanks to either side. -/
def align (flags : List Char) (width : Int) (w : Written) : String :=
  let missing := width.natAbs - (w.head.length + w.body.length)
  let blanks := String.ofList (List.replicate missing ' ')
  if flags.contains '-' || width < 0 then w.head ++ w.body ++ blanks
  else if w.isNumber && flags.contains '0' then w.head ++ String.ofList (List.replicate missing '0') ++ w.body
  else blanks ++ w.head ++ w.body

/-- Writes pieces. -/
def fillPieces (s : Supply) : List Piece → Option String
  | [] => if s.rest.isEmpty || s.table.isSome then some "" else none
  | .char c :: rest => do return String.singleton c ++ (← fillPieces s rest)
  | .directive d :: rest => do
    let s ← s.select d.key
    let (width, s) ← s.measure d.width
    let width ← width.mapM width?
    let (precision, s) ← s.measure d.precision
    let precision ← precision.mapM precision?
    let (v, s) ← s.take
    let w ← write d.flags precision d.letter v
    return align d.flags (width.getD 0) w ++ (← fillPieces s rest)

/-- The values of a message: a single table that is not empty supplies its entries. -/
def supplyOf : List Value → Supply
  | [.table (entry :: entries)] => ⟨[.table (entry :: entries)], some (entry :: entries)⟩
  | values => ⟨values, none⟩

/-- A template with values in the place of its directives. Without values it is taken as it is. -/
def fill (template : String) (values : List Value) : Option String :=
  if values.isEmpty then some template
  else do fillPieces (supplyOf values) (← pieces (template.length + 1) template.toList)

end CommandConsole.Template
