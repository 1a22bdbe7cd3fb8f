import CommandConsole.Toml.Element

/-!
# TOML documents

A document is a sequence of lines: entries, and headers of tables and of lists of tables. `parse` reads it into a table. A
table can be opened by a header once, and closed values cannot be extended.
-/

namespace CommandConsole.Toml

/-- A document as far as it has been read. -/
structure Reading where
  entries : Entries := []
  /-- The path of the table whose entries are being read. -/
  header : List String := []
  /-- The tables that a header or a dotted key has opened. -/
  opened : List (List String) := []
  /-- The values that cannot be extended. -/
  closed : List (List String) := []
  /-- Tables that dotted keys of the current section have opened. -/
  pending : List (List String) := []

namespace Reading

/-- Reads an entry of the current section. Dotted keys do not lead into tables that another section has opened. -/
def addPair (r : Reading) (key : List String) (v : Value) : Option Reading :=
  let full := r.header ++ key
  let onTheWay := (List.range (key.length - 1)).map fun n => r.header ++ key.take (n + 1)
  if onTheWay.any r.opened.contains || isClosed r.closed full.dropLast then none
  else
    (assign full v r.entries).map fun entries =>
      { r with
        entries
        pending := onTheWay ++ r.pending
        closed := if closes v then full :: r.closed else r.closed }

/-- Ends the current section. -/
def endSection (r : Reading) : Reading := { r with opened := r.pending ++ r.opened, pending := [] }

/-- Begins the section of a table. -/
def beginTable (r : Reading) (key : List String) : Option Reading :=
  if r.opened.contains key || isClosed r.closed key then none
  else
    (alterAt some key r.entries).map fun entries =>
      { r with entries, header := key, opened := key :: r.opened }

/-- Adds an empty table to the list under a key. -/
def addTable (k : String) (entries : Entries) : Option Entries :=
  match entries.lookup k with
  | none => some (entries ++ [(k, .list [.table []])])
  | some (.list items) => some (Entries.put k (.list (items ++ [.table []])) entries)
  | some _ => none

/-- Begins the section of the next table of a list; what was under the path of the table before it is free again. -/
def beginItem (r : Reading) (key : List String) : Option Reading :=
  if isClosed r.closed key then none
  else do
    let entries ← alterAt (addTable (← key.getLast?)) key.dropLast r.entries
    let keep (path : List String) : Bool := !key.isPrefixOf path
    return { r with
      entries
      header := key
      opened := key :: r.opened.filter keep
      closed := r.closed.filter keep }

end Reading

/-- Reads an entry or a header. A comment alone is neither. -/
def statement (r : Reading) (cs : List Char) : Except Error (Reading × List Char) :=
  match cs with
  | '#' :: _ => .ok (r, cs)
  | '[' :: '[' :: rest => do
    let (k, rest) ← key (skipSpaces rest)
    let r ← orMalformed (r.endSection.beginItem k)
    match rest with
    | ']' :: ']' :: rest => return (r, rest)
    | _ => malformed
  | '[' :: rest => do
    let (k, rest) ← key (skipSpaces rest)
    let r ← orMalformed (r.endSection.beginTable k)
    match rest with
    | ']' :: rest => return (r, rest)
    | _ => malformed
  | _ => do
    let (k, rest) ← key cs
    let (v, rest) ← element (← skipEquals rest)
    return (← orMalformed (r.addPair k v), rest)

/-- Reads the lines that are left; `fuel` bounds their number. -/
def statements : Nat → Reading → List Char → Except Error Reading
  | 0, _, _ => malformed
  | fuel + 1, r, cs =>
    match skipSpaces cs with
    | [] => .ok r
    | '\n' :: rest => statements fuel r rest
    | cs => do
      let (r, rest) ← statement r cs
      match ← skipComment (skipSpaces rest) with
      | [] => return r
      | '\n' :: rest => statements fuel r rest
      | _ => malformed

/-- A text in which a line feed alone ends a line, where it was a carriage return and a line feed. -/
def joinLineEnds : List Char → List Char
  | [] => []
  | '\r' :: '\n' :: cs => '\n' :: joinLineEnds cs
  | c :: cs => c :: joinLineEnds cs

/-- Reads a document. -/
def parse (document : List Char) : Except Error Entries := do
  let cs := joinLineEnds document
  return (← statements (cs.length + 1) {} cs).entries

end CommandConsole.Toml
