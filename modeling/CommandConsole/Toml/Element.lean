import CommandConsole.Toml.Scan
import CommandConsole.Value

/-!
# Values of a TOML document

`element` reads a value: a string, a switch, a list, a table in braces, a date, a time or a number. A table that is written
as a value, in braces or in a list, is closed: nothing can be added to it later, and no dotted key leads into it. The lists
and tables that are open at a time share a room of limited size.
-/

namespace CommandConsole.Toml

/-- Changes the table that a path leads to. Tables that are missing on the way are added; a list of tables leads to its
last one; any other value is in the way. -/
def alterAt (change : Entries → Option Entries) : List String → Entries → Option Entries
  | [], entries => change entries
  | k :: path, entries =>
    match entries.lookup k with
    | none => (alterAt change path []).map fun inner => entries ++ [(k, .table inner)]
    | some (.table inner) => (alterAt change path inner).map fun inner => Entries.put k (.table inner) entries
    | some (.list items) =>
      match items.getLast? with
      | some (.table inner) =>
        (alterAt change path inner).map fun inner =>
          Entries.put k (.list (items.dropLast ++ [.table inner])) entries
      | _ => none
    | some _ => none

/-- Adds an entry, unless its key is there already. -/
def addEntry (k : String) (v : Value) (entries : Entries) : Option Entries :=
  if (entries.lookup k).isSome then none else some (entries ++ [(k, v)])

/-- Sets the value under a key of several parts. -/
def assign (key : List String) (v : Value) (entries : Entries) : Option Entries :=
  match key.getLast? with
  | none => none
  | some last => alterAt (addEntry last v) key.dropLast entries

/-- Some closed path leads to or past a key. -/
def isClosed (closed : List (List String)) (key : List String) : Bool := closed.any (·.isPrefixOf key)

/-- A value that is closed once it is assigned. -/
def closes : Value → Bool
  | .list _ => true
  | .table _ => true
  | _ => false

/-- The outcome of a step that may be refused. -/
def orMalformed {α : Type} : Option α → Except Error α
  | some a => .ok a
  | none => malformed

/-- A date or a time of day, alone or together. The calendar must have the date. -/
def dated? (cs : List Char) : Option (Except Error (Value × List Char)) :=
  match date? cs with
  | some (d, rest) =>
    if d.isValid then
      match timeAfterDate? rest with
      | some ((t, offset), rest) => some (.ok (.dateTime d t offset, rest))
      | none => some (.ok (.date d, rest))
    else some malformed
  | none => (clock? cs).map fun (t, rest) => .ok (.time t, rest)

/-- A date, a time or a number. -/
def scalar (cs : List Char) : Except Error (Value × List Char) :=
  match dated? cs with
  | some found => found
  | none =>
    match basedInteger? cs with
    | some (n, rest) => .ok (.int n, rest)
    | none => do
      match ← decimal? cs with
      | some (.int n, rest) => return (.int n, rest)
      | some (.float x, rest) => return (.float x, rest)
      | none =>
        let (x, rest) ← orMalformed (special? cs)
        return (.float x, rest)

/-- The equals sign after a key, with the blanks behind it. -/
def skipEquals : List Char → Except Error (List Char)
  | '=' :: cs => .ok (skipSpaces cs)
  | _ => malformed

/-- The room for the values that are open at a time. It was measured under one caller: the format has no such limit, but the
interpreter has one, and other callers leave a few more or less. -/
def maxRoom : Nat := 987

/-- The room inside a list, which takes two units and needs one more. -/
def roomInList (room : Nat) : Except Error Nat := if 3 ≤ room then .ok (room - 2) else .error .tooDeep

/-- The room inside a table, which takes three units and needs two more. -/
def roomInTable (room : Nat) : Except Error Nat := if 5 ≤ room then .ok (room - 3) else .error .tooDeep

mutual

/-- A value, in the room that is left. The fuel bounds the depth of the nesting and the number of items. -/
def elementWithin : Nat → Nat → List Char → Except Error (Value × List Char)
  | 0, _, _ => malformed
  | fuel + 1, room, cs =>
    match cs with
    | 't' :: 'r' :: 'u' :: 'e' :: rest => .ok (.bool true, rest)
    | 'f' :: 'a' :: 'l' :: 's' :: 'e' :: rest => .ok (.bool false, rest)
    | '[' :: rest => do itemsWithin fuel (← roomInList room) [] (← skipBetween rest)
    | '\x7b' :: rest => do
      let room ← roomInTable room
      match skipSpaces rest with
      | '\x7d' :: rest => return (.table [], rest)
      | rest => entriesWithin fuel room [] [] rest
    | c :: _ =>
      if c = '"' ∨ c = '\'' then do
        let (s, rest) ← string cs
        return (.string s, rest)
      else scalar cs
    | [] => malformed

/-- The items of a list that are left, after those seen, in reverse order. -/
def itemsWithin : Nat → Nat → List Value → List Char → Except Error (Value × List Char)
  | 0, _, _, _ => malformed
  | fuel + 1, room, seen, cs =>
    match cs with
    | ']' :: rest => .ok (.list seen.reverse, rest)
    | _ => do
      let (v, rest) ← elementWithin fuel room cs
      match ← skipBetween rest with
      | ']' :: rest => return (.list (v :: seen).reverse, rest)
      | ',' :: rest => itemsWithin fuel room (v :: seen) (← skipBetween rest)
      | _ => malformed

/-- The entries of a table in braces that are left, after those seen. -/
def entriesWithin : Nat → Nat → List (List String) → Entries → List Char → Except Error (Value × List Char)
  | 0, _, _, _, _ => malformed
  | fuel + 1, room, closed, seen, cs => do
    let (k, rest) ← key cs
    let (v, rest) ← elementWithin fuel room (← skipEquals rest)
    if isClosed closed k then malformed
    else
      let entries ← orMalformed (assign k v seen)
      match skipSpaces rest with
      | '\x7d' :: rest => return (.table entries, rest)
      | ',' :: rest => entriesWithin fuel room (if closes v then k :: closed else closed) entries (skipSpaces rest)
      | _ => malformed

end

/-- A value; no value nests deeper, or has more items, than there are characters. -/
def element (cs : List Char) : Except Error (Value × List Char) := elementWithin (2 * cs.length + 2) maxRoom cs

end CommandConsole.Toml
