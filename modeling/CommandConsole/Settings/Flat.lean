import CommandConsole.Fault
import CommandConsole.Text.UpperCase
import CommandConsole.Value

/-!
# Flat settings

Nested tables are a way to write long names: the entry `size` of the table `history` is the setting `HISTORY_SIZE`.
`flatten` turns a table into settings under such names; a later entry counts before an earlier one of the same name.
`leaves` are the entries that are not tables themselves, each with the keys that lead to it. Tables may be nested as deep as
the caller has room for.
-/

namespace CommandConsole

/-- The name of an entry below a name; there may be no name above it. -/
def joinName (above key : String) : String := upperCase (if above.isEmpty then key else s!"{above}_{key}")

mutual

/-- Adds the entries of a table that stands under a name to some settings. -/
def flattenEntries (above : String) (flat : Entries) : List (String × Value) → Entries
  | [] => flat
  | (key, v) :: rest => flattenEntries above (flattenValue (joinName above key) flat v) rest

/-- Adds a value under a name to some settings: a table is flattened by itself first. -/
def flattenValue (name : String) (flat : Entries) : Value → Entries
  | .table inner => Entries.putAll flat (flattenEntries name [] inner)
  | v => Entries.put name v flat

end

/-- The settings that a table holds. -/
def flatten (entries : Entries) : Entries := flattenEntries "" [] entries

mutual

/-- How deep the tables among some entries are nested, these entries included. Empty tables do not count, since nothing in
them is looked at. -/
def tableDepth : List (String × Value) → Nat
  | [] => 0
  | (_, v) :: rest => max (tableDepthOf v + 1) (tableDepth rest)

/-- How deep the tables of a value are nested; the items of a list do not count. -/
def tableDepthOf : Value → Nat
  | .table inner => tableDepth inner
  | _ => 0

end

/-- The fault of tables that are nested too deep. -/
def tooManyTables : Fault := ⟨.nesting, "maximum recursion depth exceeded in comparison"⟩

/-- The settings that a table holds, unless it is nested deeper than there is room for. Flattening calls itself for each table
in a table, and the room is what the interpreter's recursion limit leaves where it is called. -/
def flatten? (room : Nat) (entries : Entries) : Except Fault Entries :=
  if tableDepth entries ≤ room then .ok (flatten entries) else .error tooManyTables

/-- How deep the tables of a file may be nested. This is the room that was measured where settings are loaded by one caller;
others leave room for a few more or less. -/
def maxTables : Nat := 988

mutual

/-- The entries of a table that are not tables, in the order in which they are written, with the keys that lead to them. -/
def leaves (path : List String) : List (String × Value) → List (List String × Value)
  | [] => []
  | (key, v) :: rest => valueLeaves (path ++ [key]) v ++ leaves path rest

/-- The leaves of a value to which some keys lead. -/
def valueLeaves (path : List String) : Value → List (List String × Value)
  | .table inner => leaves path inner
  | v => [(path, v)]

end

end CommandConsole
