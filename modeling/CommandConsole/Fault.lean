import CommandConsole.Text.Quoted

/-!
# Faults

A `Fault` is a failure that the console contains: it has a kind and a message. The message is formed when it is asked for,
and that may fail itself. An interrupt is not contained; `Stop` is either of the two.
-/

namespace CommandConsole

/-- The kinds of failure. Commands, stores and plugins may bring kinds of their own, which only have a name. -/
inductive Fault.Kind where
  | general
  | runtime
  | value
  | encoding
  | type
  | key
  | index
  | os
  | missingModule
  | missingMember
  | endOfInput
  | nesting
  | fileExists
  | notFolder
  | isFolder
  | database
  | unopenable
  | other (name : String)
  deriving Repr, DecidableEq, Inhabited

/-- The name under which reports and log records show a kind of failure. -/
def Fault.Kind.name : Fault.Kind → String
  | general => "Exception"
  | runtime => "RuntimeError"
  | value => "ValueError"
  | encoding => "UnicodeEncodeError"
  | type => "TypeError"
  | key => "KeyError"
  | index => "IndexError"
  | os => "OSError"
  | missingModule => "ModuleNotFoundError"
  | missingMember => "AttributeError"
  | endOfInput => "EOFError"
  | nesting => "RecursionError"
  | fileExists => "FileExistsError"
  | notFolder => "NotADirectoryError"
  | isFolder => "IsADirectoryError"
  | database => "DatabaseError"
  | unopenable => "OperationalError"
  | other name => name

mutual

/-- A failure that the console reports and survives. -/
structure Fault where
  kind : Fault.Kind
  detail : Detail
  deriving Repr, DecidableEq

/-- What a failure says: a text, or another failure that comes of the attempt to form one. -/
inductive Detail where
  | text (s : String)
  | failing (f : Fault)
  deriving Repr, DecidableEq

end

/-- Why a caller's function, a store or a session step came to an early end. -/
inductive Stop where
  | fault (f : Fault)
  | interrupt (message : String)
  deriving Repr, DecidableEq

instance : Coe String Detail := ⟨.text⟩

/-- The text that is said, or the failure that is met instead. -/
def Detail.formed : Detail → Except Fault String
  | text s => .ok s
  | failing f => .error f

namespace Fault

/-- The message of a fault, if it can be formed. -/
def message (f : Fault) : Except Fault String := f.detail.formed

/-- How the account of a fault ends: with its message, or with the remark that there is none. -/
def account (f : Fault) : String := (f.message.toOption).getD "<exception str() failed>"

/-- A value that does not fit. -/
def badValue (message : String) : Fault := ⟨.value, message⟩

/-- A value of the wrong kind. -/
def badType (message : String) : Fault := ⟨.type, message⟩

/-- A state in which the operation makes no sense. -/
def badState (message : String) : Fault := ⟨.runtime, message⟩

/-- A look-up of a key that is missing; the key is shown between quotes. -/
def missingKey (key : String) : Fault := ⟨.key, quote key⟩

end Fault

end CommandConsole
