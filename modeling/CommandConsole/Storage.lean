import CommandConsole.Fault
import CommandConsole.Value

/-!
# Stores

A `Table` maps keys to texts. A `Storage` is a table behind reads and writes that may fail, each time on its own terms.
-/

namespace CommandConsole

/-- Keys and their texts; the first entry of a key counts. -/
abbrev Table := List (String × String)

/-- Sets the text of a key. -/
def Table.set (key text : String) : Table → Table
  | [] => [(key, text)]
  | (k, t) :: rest => if k = key then (k, text) :: rest else (k, t) :: Table.set key text rest

/-- The table that holds some entries; of several with one key the last one counts, in the place of the first. -/
def Table.ofEntries (entries : List (String × String)) : Table :=
  entries.foldl (fun t (key, text) => Table.set key text t) []

/-- The text of a key. -/
def Table.get? (t : Table) (key : String) : Option String := t.lookup key

/-- A table whose reads and writes may fail: `readFault n` says how read number `n` does, `writeFault n` how write number
`n` does. With an `answer`, every read that does not fail gives that value in the place of the stored text. -/
structure Storage where
  table : Table := []
  readFault : Nat → Option Stop := fun _ => none
  writeFault : Nat → Option Stop := fun _ => none
  answer : Nat → Option Value := fun _ => none
  reads : Nat := 0
  writes : Nat := 0

namespace Storage

/-- The stored text of a key, as it stands behind the reads. -/
def raw? (s : Storage) (key : String) : Option String := s.table.get? key

/-- Reads the value of a key; a key without one has no value. -/
def get (s : Storage) (key : String) : Storage × Except Stop Value :=
  ({ s with reads := s.reads + 1 },
    match s.readFault s.reads with
    | some why => .error why
    | none => .ok ((s.answer s.reads).getD (((s.raw? key).map Value.string).getD .null)))

/-- Writes the text of a key. -/
def set (s : Storage) (key text : String) : Storage × Except Stop Unit :=
  match s.writeFault s.writes with
  | some why => ({ s with writes := s.writes + 1 }, .error why)
  | none => ({ s with writes := s.writes + 1, table := s.table.set key text }, .ok ())

/-- From now on reads and writes fail in the given ways, or not at all. -/
def failing (s : Storage) (read write : Option Stop) : Storage :=
  { s with readFault := fun _ => read, writeFault := fun _ => write }

/-- Replaces the stored text of a key behind the writes. -/
def overwrite (s : Storage) (key text : String) : Storage := { s with table := s.table.set key text }

end Storage

end CommandConsole
