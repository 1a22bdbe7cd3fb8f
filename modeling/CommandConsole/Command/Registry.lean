import CommandConsole.Command.Draft
import CommandConsole.Log.Record

/-!
# The registry

The registry maps lower-case names to commands. A name keeps its place when its command is replaced and gets a new place
at the end when it is registered again after a removal.
-/

namespace CommandConsole

/-- A registered command, and how often its completer has been asked. -/
structure Entry where
  key : String
  command : Command
  asked : Nat := 0

/-- Registered commands, in order. -/
structure Registry where
  entries : List Entry := []

/-- The names that begin with a text, in any case. -/
def matching (typed : String) (names : List String) : List String :=
  names.filter fun name => (lowerCase typed).toList.isPrefixOf name.toList

namespace CompletionRequest

/-- The registered names that begin with a text, in any case. -/
def matchPrefix (r : CompletionRequest) (typed : String) : List String := matching typed r.names

end CompletionRequest

namespace Registry

/-- The registered names. -/
def names (r : Registry) : List String := r.entries.map (·.key)

/-- The registered commands. -/
def commands (r : Registry) : List Command := r.entries.map (·.command)

/-- The entry under a lower-case name. -/
def entry? (r : Registry) (key : String) : Option Entry := r.entries.find? (·.key == key)

/-- The command of a name, in any case. -/
def lookup (r : Registry) (name : String) : Option Command := (r.entry? (lowerCase name)).map (·.command)

/-- Whether a name, in any case, is registered. -/
def contains (r : Registry) (name : String) : Bool := r.names.contains (lowerCase name)

/-- Whether a value is the name of a command; no value but a text is. -/
def containsValue (r : Registry) (v : Value) : Bool := v.text?.any r.contains

/-- The registered names that begin with a text, in any case. -/
def matchPrefix (r : Registry) (typed : String) : List String := matching typed r.names

/-- Puts an entry in the place of the one with the same name, or at the end. -/
def put (e : Entry) : List Entry → List Entry
  | [] => [e]
  | x :: rest => if x.key = e.key then e :: rest else x :: put e rest

/-- Registers a command. -/
def insert (r : Registry) (c : Command) : Registry := ⟨put ⟨c.key, c, 0⟩ r.entries⟩

/-- The record that tells of a replaced command. -/
def replacementNotes (r : Registry) (key : String) : List LogRecord :=
  if r.names.contains key then
    [⟨.debug, Channel.registry, s!"Replacing command definition for '{key}'", none⟩]
  else []

/-- Registers a candidate; one that is no command is refused. -/
def register (r : Registry) : Candidate Action → Step Registry Command
  | .command c => ⟨r.insert c, r.replacementNotes c.key, .ok c⟩
  | .value v => ⟨r, [], .error (.fault (.badType s!"Expected CommandDefinition, got {v.kindName}."))⟩

/-- Removes a command by its name, in any case, and gives it back. -/
def unregister (r : Registry) (name : String) : Registry × Option Command :=
  (⟨r.entries.filter (·.key ≠ lowerCase name)⟩, r.lookup name)

/-- Counts a question put to the completer of a command. -/
def noteAsked (r : Registry) (key : String) : Registry :=
  ⟨r.entries.map fun e => if e.key = key then { e with asked := e.asked + 1 } else e⟩

end Registry

end CommandConsole
