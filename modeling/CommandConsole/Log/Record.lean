import CommandConsole.Fault
import CommandConsole.Value

/-!
# Log records

What the parts of the console note on the side: a level, the channel of the part, a message and, for a contained failure,
the fault. A `Step` is the outcome of an operation that notes records and may be cut short.
-/

namespace CommandConsole

/-- How grave a record is. A level may be given as a truth value, which ranks as one or zero and is shown as what it is. -/
structure Level where
  rank : Int
  isTruth : Bool := false
  deriving Repr, DecidableEq

namespace Level

/-- No level of its own. -/
def notSet : Level := { rank := 0 }

/-- Of interest to developers. -/
def debug : Level := { rank := 10 }

/-- Of interest to operators. -/
def info : Level := { rank := 20 }

/-- Something is amiss and was got around. -/
def warning : Level := { rank := 30 }

/-- Something failed. -/
def error : Level := { rank := 40 }

/-- Nothing works. -/
def critical : Level := { rank := 50 }

/-- A truth value as a level. -/
def ofBool (b : Bool) : Level := ⟨if b then 1 else 0, true⟩

/-- The level that a value gives to a record: a whole number or a truth value. -/
def ofValue : Value → Except Fault Level
  | .int n => .ok { rank := n }
  | .bool b => .ok (ofBool b)
  | _ => .error (.badType "level must be an integer")

/-- The levels that have a name. -/
def named : List (Level × String) :=
  [(notSet, "NOTSET"), (debug, "DEBUG"), (info, "INFO"), (warning, "WARNING"), (error, "ERROR"),
   (critical, "CRITICAL")]

/-- A level as a value. -/
def value (l : Level) : Value := if l.isTruth then .bool (l.rank ≠ 0) else .int l.rank

/-- The name of the levels of a rank; a level whose rank has no name is shown as a value. -/
def name (l : Level) : String :=
  match named.find? (·.1.rank = l.rank) with
  | some (_, text) => text
  | none => s!"Level {l.value.text}"

end Level

/-- A record of the log. -/
structure LogRecord where
  level : Level
  channel : String
  message : String
  fault : Option Fault := none
  deriving Repr, DecidableEq

namespace Channel

/-- The channel of the console as a whole. -/
def console : String := "termcore"

/-- The channel of the registry. -/
def registry : String := "termcore.commands.commands"

/-- The channel of the history. -/
def history : String := "termcore.interface.history"

/-- The channel of the completion. -/
def completion : String := "termcore.interface.completion"

/-- The channel of the session. -/
def session : String := "termcore.interface.handler"

/-- The channel of the plugin loader. -/
def loader : String := "termcore.interface.loader"

end Channel

/-- The outcome of an operation: the state it leaves, the records it notes, and its result unless it was cut short. -/
structure Step (σ α : Type) where
  state : σ
  notes : List LogRecord := []
  result : Except Stop α

end CommandConsole
