import CommandConsole.Frontend.Loop
import CommandConsole.Log.Logger

/-!
# Boot reports

Booting goes in steps. Each step leaves a line in the report: one that fails does and ends the boot, unless the message of
its fault cannot be formed; one that succeeds does if the report is to be verbose.
-/

namespace CommandConsole

/-- A line of a boot report. -/
inductive StatusLine where
  | passed (label : String)
  | failed (label : String) (kind : Fault.Kind) (message : String)
  deriving Repr, DecidableEq

namespace StatusLine

/-- The text of a line. -/
def text : StatusLine → String
  | passed label => s!"[  OK  ] {label}"
  | failed label kind message => s!"[FAILED] {label} ({kind.name}: {message})"

/-- The style of a line. -/
def style : StatusLine → String
  | passed _ => "green"
  | failed .. => "red"

end StatusLine

/-- A console while it boots. -/
structure Boot where
  frontend : Frontend
  log : Log
  report : List StatusLine := []

namespace Boot

/-- Adds a line to the report and prints it. -/
def tell (b : Boot) (line : StatusLine) : Boot :=
  { b with
    frontend := { b.frontend with screen := b.frontend.screen.printLine (styled line.text [line.style]) }
    report := b.report ++ [line] }

/-- A console with another session. -/
def withSession (b : Boot) (s : Session) : Boot := { b with frontend := { b.frontend with session := some s } }

/-- Hands the records of the session to the log. -/
def flush (b : Boot) : Boot :=
  match b.frontend.session with
  | none => b
  | some s => ({ b with log := b.log.emitAll s.notes }).withSession { s with notes := [] }

end Boot

/-- What a boot does: it changes the console, and it may be stopped. -/
abbrev Booting (α : Type) := ExceptT Stop (StateM Boot) α

namespace Booting

/-- Does something under a label and reports how it went; success is reported only if `verbose`. If the message of a fault
cannot be formed, there is no report, and the fault that is met there goes on in the place of the other one. -/
def step {α : Type} (label : String) (verbose : Bool) (work : Booting α) : Booting α := ExceptT.mk do
  match ← work.run with
  | .ok a =>
    if verbose then modify (·.tell (.passed label))
    return .ok a
  | .error (.fault f) =>
    match f.message with
    | .ok message =>
      modify (·.tell (.failed label f.kind message))
      return .error (.fault f)
    | .error f => return .error (.fault f)
  | .error why => return .error why

end Booting

end CommandConsole
