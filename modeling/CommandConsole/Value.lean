import CommandConsole.Calendar
import CommandConsole.Fault
import CommandConsole.Number.Binary64
import CommandConsole.Text.Integer
import CommandConsole.Text.Point

/-!
# Loose values

A `Value` is what a configuration file, a store or a caller may hand over where a text, a number or a switch is expected.
A text with surrogates in it is `ragged`; keys, and all texts that commands and their answers are made of, are shown as
`String`s instead.
`Value.text` is the text that a setting or a message takes it for, `Value.display` the form in which an error shows it;
both are written only as long as no integer in the value has too many digits (`Value.written`, `Value.shown`).
-/

namespace CommandConsole

/-- A value of any kind that the outside may supply. Tables keep the order of their entries. -/
inductive Value where
  | null
  | bool (b : Bool)
  | int (n : Int)
  | float (x : Binary64)
  | string (s : String)
  | ragged (t : Ragged)
  | date (d : Date)
  | time (t : Clock)
  | dateTime (d : Date) (t : Clock) (offset : Option Int)
  | list (items : List Value)
  | table (entries : List (String × Value))
  deriving Inhabited, Repr

/-- Keys with their values, in the order in which the keys appeared. -/
abbrev Entries := List (String × Value)

/-- Sets the value of a key, in its place if the key is there already. -/
def Entries.put (key : String) (v : Value) : Entries → Entries
  | [] => [(key, v)]
  | (k, w) :: rest => if k = key then (k, v) :: rest else (k, w) :: Entries.put key v rest

/-- Sets the values of many keys, one after the other. -/
def Entries.putAll (base more : Entries) : Entries := more.foldl (fun all (k, v) => Entries.put k v all) base

namespace Value

/-- The name of a value's kind. -/
def kindName : Value → String
  | null => "NoneType"
  | bool _ => "bool"
  | int _ => "int"
  | float _ => "float"
  | string _ => "str"
  | ragged _ => "str"
  | date _ => "date"
  | time _ => "time"
  | dateTime .. => "datetime"
  | list _ => "list"
  | table _ => "dict"

/-- Whether a value counts as true where a condition is expected: all but nothing, false, zero and the empty ones. -/
def truthy : Value → Bool
  | null => false
  | bool b => b
  | int n => n ≠ 0
  | float x => !x.isZero
  | string s => !s.isEmpty
  | list items => !items.isEmpty
  | table entries => !entries.isEmpty
  | _ => true

mutual

/-- A value as an expression. -/
def display : Value → String
  | null => "None"
  | bool true => "True"
  | bool false => "False"
  | int n => toString n
  | float x => x.text
  | string s => quote s
  | ragged t => quotePoints t.points
  | date d => d.display
  | time t => t.display
  | dateTime d t offset => dateTimeDisplay d t offset
  | list items => "[" ++ ", ".intercalate (displayItems items) ++ "]"
  | table entries => "\x7b" ++ ", ".intercalate (displayEntries entries) ++ "\x7d"

/-- The expressions of the items of a list. -/
def displayItems : List Value → List String
  | [] => []
  | v :: rest => display v :: displayItems rest

/-- The expressions of the entries of a table. -/
def displayEntries : List (String × Value) → List String
  | [] => []
  | (k, v) :: rest => (quote k ++ ": " ++ display v) :: displayEntries rest

end

/-- The text that a value stands for: texts are themselves, dates are in the international form, all others are shown as
expressions. -/
def text : Value → String
  | string s => s
  | ragged t => shownText t.points
  | date d => d.text
  | time t => t.text
  | dateTime d t offset => dateTimeText " " d t offset
  | v => v.display

/-- The text that a value is, as it is shown. -/
def text? : Value → Option String
  | string s => some s
  | ragged t => some (shownText t.points)
  | _ => none

/-- The code points of the text that a value stands for. -/
def points : Value → List Point
  | ragged t => t.points
  | v => pointsOf v.text

/-- A text of code points. -/
def ofPoints (ps : List Point) : Value :=
  if h : ps.any Point.isLone = true then ragged ⟨ps, h⟩ else string (shownText ps)

/-- The text that a value stands for, as a value. -/
def asText (v : Value) : Value := ofPoints v.points

/-- The least number that has more digits than are written. -/
@[irreducible] def leastUnwritten : Nat := Nat.pow 10 maxDigits

mutual

/-- No integer in a value has more digits than are written. -/
def isWritable : Value → Bool
  | int n => n.natAbs < leastUnwritten
  | list items => areWritable items
  | table entries => entriesAreWritable entries
  | _ => true

/-- No integer in some values has more digits than are written. -/
def areWritable : List Value → Bool
  | [] => true
  | v :: rest => isWritable v && areWritable rest

/-- No integer in some entries has more digits than are written. -/
def entriesAreWritable : List (String × Value) → Bool
  | [] => true
  | (_, v) :: rest => isWritable v && entriesAreWritable rest

end

/-- The fault of an integer that has too many digits to be written. -/
def notWritable : Fault :=
  .badValue (s!"Exceeds the limit ({maxDigits} digits) for integer string conversion; "
    ++ "use sys.set_int_max_str_digits() to increase the limit")

/-- The text of a value, unless it has too many digits. -/
def written (v : Value) : Except Fault String := if isWritable v then .ok v.text else .error notWritable

/-- A value as an expression, unless it has too many digits. -/
def shown (v : Value) : Except Fault String := if isWritable v then .ok v.display else .error notWritable

/-- The items of a value that can be gone through: those of a list, the characters of a text, the keys of a table. -/
def items? : Value → Option (List Value)
  | list items => some items
  | string s => some (s.toList.map fun c => string (String.singleton c))
  | ragged t => some (t.points.map fun p => ofPoints [p])
  | table entries => some (entries.map fun (k, _) => string k)
  | _ => none

end Value

end CommandConsole
