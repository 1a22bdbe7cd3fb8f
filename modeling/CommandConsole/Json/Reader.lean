import CommandConsole.Fault
import CommandConsole.Json.Token
import CommandConsole.Value

/-!
# Reading JSON

`parse` reads one value from a text, token by token, with the lists and tables that are open on a stack. Besides the
numbers of the standard it takes `NaN`, `Infinity` and `-Infinity`; of entries with the same key the last one counts, in the
place of the first. A surrogate that stands alone remains in a text, but in a key it is shown as U+FFFD. Containers may be
nested to a depth of `maxDepth`.
-/

namespace CommandConsole.Json

/-- A kind of value that holds others. -/
inductive Container where
  | list
  | table
  deriving Repr, DecidableEq

/-- What a format calls a container. -/
def Container.name : Container → String
  | list => "array"
  | table => "object"

/-- Why a text is no JSON value. -/
inductive Error where
  | malformed
  | tooManyDigits (digits : Nat)
  | tooDeep (innermost : Container)
  deriving Repr, DecidableEq

/-- How many containers may be open at a time. There is no such number in the format: it is what the interpreter's
recursion limit leaves to the reader, as it was measured under one caller, and differs by a few under others. -/
def maxDepth : Nat := 988

/-- The fault of a text in which too many containers are open. -/
def tooDeepFault (innermost : Container) : Fault :=
  ⟨.nesting, s!"maximum recursion depth exceeded while decoding a JSON {innermost.name} from a unicode string"⟩

/-- A list or table that is open: a list with its items in reverse order, a table with its entries and the key whose value
is being read. -/
inductive Frame where
  | list (items : List Value)
  | table (entries : Entries) (key : String)

/-- What may come next. -/
inductive Expected where
  /-- A value. -/
  | value
  /-- The first item of a list, or its end. -/
  | item
  /-- The first key of a table, or its end; the table is the innermost one and still empty. -/
  | entry
  /-- A key. -/
  | key (entries : Entries)
  /-- The colon after a key. -/
  | colon (entries : Entries) (key : String)
  /-- A separator or the end of the innermost list or table. -/
  | separator
  /-- Nothing: the value is complete. -/
  | finish (v : Value)

/-- A reading in progress. -/
structure Progress where
  stack : List Frame := []
  expected : Expected := .value

/-- Puts a complete value into the innermost list or table. -/
def deliver (v : Value) : List Frame → Progress
  | [] => ⟨[], .finish v⟩
  | .list items :: rest => ⟨.list (v :: items) :: rest, .separator⟩
  | .table entries key :: rest => ⟨.table (Entries.put key v entries) key :: rest, .separator⟩

/-- The value of a number. -/
def Numeral.value (n : Numeral) : Except Error Value :=
  if n.integral then
    if n.whole.length > maxDigits then .error (.tooManyDigits n.whole.length)
    else
      let m := Int.ofNat (ofDigits 10 (n.whole.filterMap digitValue?))
      .ok (.int (if n.negative then -m else m))
  else
    let m := ofDigits 10 ((n.whole ++ n.fraction).filterMap digitValue?)
    .ok (.float (.ofDecimal n.negative m (n.exponent - n.fraction.length)))

/-- The value of a word. -/
def wordValue? : String → Option Value
  | "null" => some .null
  | "true" => some (.bool true)
  | "false" => some (.bool false)
  | "NaN" => some (.float .nan)
  | "Infinity" => some (.float (.infinity false))
  | "-Infinity" => some (.float (.infinity true))
  | _ => none

/-- Opens a container, unless too many are open around it. -/
def openContainer (stack : List Frame) (c : Container) : Except Error Progress :=
  if maxDepth ≤ stack.length then .error (.tooDeep c)
  else
    match c with
    | .list => .ok ⟨.list [] :: stack, .item⟩
    | .table => .ok ⟨stack, .entry⟩

/-- Reads a token where a value may begin. -/
def beginValue (stack : List Frame) : Token → Except Error Progress
  | .mark '[' => openContainer stack .list
  | .mark '\x7b' => openContainer stack .table
  | .string ps => .ok (deliver (.ofPoints ps) stack)
  | .number n => do return deliver (← n.value) stack
  | .word w =>
    match wordValue? w with
    | some v => .ok (deliver v stack)
    | none => .error .malformed
  | _ => .error .malformed

/-- Reads a token. -/
def advance (p : Progress) (t : Token) : Except Error Progress :=
  match p.expected, t, p.stack with
  | .value, t, stack => beginValue stack t
  | .item, .mark ']', .list items :: rest => .ok (deliver (.list items.reverse) rest)
  | .item, t, stack => beginValue stack t
  | .entry, .mark '\x7d', stack => .ok (deliver (.table []) stack)
  | .entry, .string ps, stack => .ok ⟨stack, .colon [] (shownText ps)⟩
  | .key entries, .string ps, stack => .ok ⟨stack, .colon entries (shownText ps)⟩
  | .colon entries k, .mark ':', stack => .ok ⟨.table entries k :: stack, .value⟩
  | .separator, .mark ',', .list items :: rest => .ok ⟨.list items :: rest, .value⟩
  | .separator, .mark ']', .list items :: rest => .ok (deliver (.list items.reverse) rest)
  | .separator, .mark ',', .table entries _ :: rest => .ok ⟨rest, .key entries⟩
  | .separator, .mark '\x7d', .table entries _ :: rest => .ok (deliver (.table entries) rest)
  | _, _, _ => .error .malformed

/-- Reads tokens. -/
def advanceAll (p : Progress) : List Token → Except Error Progress
  | [] => .ok p
  | t :: ts => do advanceAll (← advance p t) ts

/-- Reads one value from a text. -/
def parse (s : String) : Except Error Value := do
  match (← advanceAll {} (tokens s)).expected with
  | .finish v => return v
  | _ => throw .malformed

end CommandConsole.Json
