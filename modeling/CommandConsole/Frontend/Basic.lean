import CommandConsole.Session.Start
import CommandConsole.Terminal.Style

/-!
# Frontends

A `Frontend` is a surface in a terminal: it prints what the session sends, one line for each text, in the colours that were
picked, and reads lines for it. It runs until the session asks to leave or the input ends.
-/

namespace CommandConsole

/-- How lines are read: as they come, or with an editor. -/
inductive FrontendKind where
  | plain
  | editing
  deriving Repr, DecidableEq

/-- The kind of frontend for a process: an editor needs a terminal on both sides, unless the choice is made. -/
def FrontendKind.choose (interactive : Option Bool) (inputIsTerminal outputIsTerminal : Bool) : FrontendKind :=
  if interactive.getD (inputIsTerminal && outputIsTerminal) then .editing else .plain

/-- A surface in a terminal, with the session that is attached to it. -/
structure Frontend where
  kind : FrontendKind := .plain
  screen : Screen
  /-- The surface as long as no session is attached. -/
  surface : Surface := {}
  session : Option Session := none
  colors : Colors := {}
  running : Bool := false

namespace Frontend

/-- The surface: that of the session, if one is attached. -/
def currentSurface (f : Frontend) : Surface := ((f.session.map (·.surface)).getD f.surface)

/-- The input line. -/
def input (f : Frontend) : String := f.currentSurface.input

/-- Changes the surface without a word to the session. -/
def withSurface (f : Frontend) (change : Surface → Surface) : Frontend :=
  match f.session with
  | none => { f with surface := change f.surface }
  | some s => { f with session := some { s with surface := change s.surface } }

/-- Replaces the input line without a word to the session. -/
def withInput (f : Frontend) (text : String) : Frontend := f.withSurface fun s => { s with input := text }

/-- Sets what changes of the input line meet from now on. -/
def withChangeFault (f : Frontend) (fault : Option Fault) : Frontend :=
  f.withSurface fun s => { s with changeFault := fault }

/-- A text without one line end at its end. -/
def dropLineEnd (text : String) : String :=
  match text.toList.reverse with
  | '\n' :: cs => String.ofList cs.reverse
  | _ => text

/-- Shows one piece of output. -/
def display (f : Frontend) : Output → Frontend
  | .write text => { f with screen := f.screen.printLine (styled (dropLineEnd text) f.colors.styleNames) }
  | .clear => { f with screen := f.screen.clear }
  | .setInput _ => f
  | .setColors colors => { f with colors }

/-- Shows output, piece by piece. -/
def displayAll (f : Frontend) (os : List Output) : Frontend := os.foldl display f

/-- Takes over a session after it has worked: shows its output, and stops running if it has asked to leave. -/
def absorb (f : Frontend) (s : Session) : Frontend :=
  let asked := f.session.any fun before => before.exits < s.exits
  { f.displayAll s.surface.output with
    session := some { s with surface := s.surface.taken }
    running := f.running && !asked }

/-- Lets the attached session work. -/
def withSession {α : Type} (f : Frontend) (work : Session → Session × α) : Frontend × Option α :=
  match f.session with
  | none => (f, none)
  | some s => (f.absorb (work s).1, some (work s).2)

/-- Starts a session on the frontend and attaches it. Leaving the session stops the frontend. -/
def attach (f : Frontend) (storage : Storage) (settings : Settings) : Except Stop Frontend := do
  let s ← Session.start { surface := f.currentSurface, storage, settings, exitHandler := .present }
  return { f with session := none }.absorb s

/-- The text in front of the input. -/
def promptText (f : Frontend) : String := ((f.session.map (·.prompt)).getD ">") ++ " "

/-- Prints the text in front of the input. -/
def showPrompt (f : Frontend) : Frontend := { f with screen := f.screen.put f.promptText }

/-- The fault of submitting without a session. -/
def nothingAttached : Fault := ⟨.missingMember, "'NoneType' object has no attribute 'submit'"⟩

/-- Submits a line to the attached session. -/
def submit (f : Frontend) (line : String) : Frontend × Except Stop Bool :=
  match f.withSession fun s => s.submit line with
  | (f, some result) => (f, result)
  | (f, none) => (f, .error (.fault nothingAttached))

/-- The frontend does not run any more. -/
def stop (f : Frontend) : Frontend := { f with running := false }

/-- The fault of running without a session. -/
def detached : Fault := .badState "No interpreter attached to the frontend."

/-- The fault of reading past the end of the input. -/
def inputEnded : Fault := ⟨.endOfInput, "EOF when reading a line"⟩

end Frontend

end CommandConsole
