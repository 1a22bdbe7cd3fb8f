import CommandConsole.Json.Reader
import CommandConsole.Json.Writer
import CommandConsole.Storage

/-!
# Tables as texts

A table can be kept as a text: a JSON list of its keys and their texts in turn.
-/

namespace CommandConsole.Table

/-- Keys and texts in turn. -/
def flat (t : Table) : List String := t.flatMap fun (key, text) => [key, text]

/-- The table whose keys and texts are given in turn. -/
def ofFlat : List Value → Option Table
  | [] => some []
  | .string key :: .string text :: rest => (ofFlat rest).map ((key, text) :: ·)
  | _ => none

/-- A table as a text. -/
def encode (t : Table) : String := Json.encodeStrings t.flat

/-- The table that a text is. -/
def decode (s : String) : Option Table :=
  match Json.parse s with
  | .ok (.list items) => ofFlat items
  | _ => none

end CommandConsole.Table
