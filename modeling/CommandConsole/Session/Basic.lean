import CommandConsole.Completion
import CommandConsole.History.Store
import CommandConsole.Surface

/-!
# Sessions

A `Session` is a console at work: it takes the events of its surface, runs the commands of its registry, keeps the history
and completes the input line. A submitted line is echoed, executed and recorded; whatever a command does, `submit` gives back
whether it ran to completion, and only an interrupt gets past it, or the failure to form the message of a fault. A command
may submit further lines, to a depth that is limited.
-/

namespace CommandConsole

/-- What happens when a command asks to leave: nothing, or a call that may fail. -/
inductive ExitHandler where
  | absent
  | present (failure : Option Stop := none)
  deriving Repr, DecidableEq

/-- A console at work. -/
structure Session where
  surface : Surface := {}
  completion : Completion := {}
  history : History
  prompt : String
  colors : Colors := {}
  completes : Bool := true
  exitHandler : ExitHandler := .absent
  /-- How often the exit handler was called. -/
  exits : Nat := 0
  /-- The text that the session itself wrote into the input line last, until the line is edited. -/
  lastWritten : Option String := none
  /-- The line that is being executed is not to be recorded. -/
  skipRecord : Bool := false
  notes : List LogRecord := []

namespace Session

/-- The registry of a session. -/
def registry (s : Session) : Registry := s.completion.registry

/-- A session with another registry. -/
def withRegistry (s : Session) (r : Registry) : Session := { s with completion := { s.completion with registry := r } }

/-- A session with further records. -/
def note (s : Session) (records : List LogRecord) : Session := { s with notes := s.notes ++ records }

/-! ## Output -/

/-- Sends output to the surface. -/
def send (s : Session) (o : Output) : Session := { s with surface := s.surface.send o }

/-- Writes a text. -/
def write (s : Session) (text : String) : Session := s.send (.write text)

/-- Writes a line. -/
def writeLine (s : Session) (text : String) : Session := s.write (text ++ "\n")

/-- Clears the output area. -/
def clear (s : Session) : Session := s.send .clear

/-- Picks colours; a layer without one keeps its colour. -/
def paint (s : Session) (picked : Colors) : Session :=
  let colors := ⟨picked.foreground <|> s.colors.foreground, picked.background <|> s.colors.background⟩
  { s with colors, surface := s.surface.setColors colors }

/-- Calls the exit handler, if there is one. -/
def hide (s : Session) : Session × Except Stop Unit :=
  match s.exitHandler with
  | .absent =>
    (s.note [⟨.debug, Channel.session, "exit requested but no exit handler is installed", none⟩], .ok ())
  | .present none => ({ s with exits := s.exits + 1 }, .ok ())
  | .present (some why) => ({ s with exits := s.exits + 1 }, .error why)

/-! ## Input line and history -/

/-- Replaces the input line and remembers the text. -/
def writeInput (s : Session) (text : String) : Session × Except Fault Unit :=
  ({ s with lastWritten := some text, surface := s.surface.setInput text }, s.surface.faultOfInput text)

/-- Ends the completion cycle. -/
def endCycle (s : Session) : Session := { s with completion := s.completion.reset }

/-- Takes over the outcome of an operation on the history. -/
def onHistory {α : Type} (s : Session) (step : Step History α) : Session × Except Stop α :=
  ({ s with history := step.state, notes := s.notes ++ step.notes }, step.result)

/-- Records a line. -/
def record (s : Session) (line : String) : Session × Except Stop Bool := s.onHistory (s.history.record line)

/-- Empties the history; the line that is being executed will not be recorded. -/
def clearHistory (s : Session) : Session × Except Stop Unit :=
  match s.onHistory s.history.clear with
  | (s, .ok ()) => ({ s with skipRecord := true }, .ok ())
  | stopped => stopped

/-- Moves through the history and replaces the input line by what is found. -/
def navigateTo (s : Session) (d : Direction) : Session × Except Fault String :=
  let (history, found) := s.history.navigate d s.surface.input
  let moved := { s with history }.endCycle
  if found = s.surface.input then (moved, .ok found)
  else
    let (s, written) := moved.writeInput found
    (s, written.map fun () => found)

/-- Moves through the history in the direction that a value names. -/
def navigate (s : Session) (direction : Value) : Session × Except Fault String :=
  match Direction.parse direction with
  | .error f => (s, .error f)
  | .ok d => s.navigateTo d

/-- Completes the input line. -/
def complete (s : Session) : Session × Except Stop (Option String) :=
  if s.completes then
    let step := s.completion.complete s.surface.input
    let s := { s with completion := step.state, notes := s.notes ++ step.notes }
    match step.result with
    | .ok (some line) =>
      let (s, written) := s.writeInput line
      (s, (written.mapError .fault).map fun () => some line)
    | result => (s, result)
  else (s, .ok none)

/-- Takes the report that the input line holds a text. The echo of the session's own last write is no edit; any other text
is one and ends the completion cycle. -/
def inputChanged (s : Session) (text : String) : Session :=
  if s.lastWritten = some text then s else { s with lastWritten := none }.endCycle

/-- Puts a text into the input line for a command; a surface that reports its changes reports this one. -/
def setInput (s : Session) (text : String) : Session × Except Fault Unit :=
  let changed := { s with surface := s.surface.setInput text }
  (if s.surface.reports ∧ text ≠ s.surface.input then changed.inputChanged text else changed, s.surface.faultOfInput text)

/-! ## Commands -/

/-- Registers a candidate. -/
def register (s : Session) (c : Candidate Action) : Session × Except Stop Command :=
  let step := s.registry.register c
  (({ s with notes := s.notes ++ step.notes }.withRegistry step.state), step.result)

/-- Builds a command from a draft and registers it. -/
def registerDraft (s : Session) (d : Draft) : Session × Except Stop Command :=
  match d.build with
  | .error e => (s, .error (.fault e.fault))
  | .ok c => s.register (.command c)

/-- Removes a command. -/
def unregister (s : Session) (name : String) : Session × Option Command :=
  let (r, removed) := s.registry.unregister name
  (s.withRegistry r, removed)

/-- What a command can see of a session. -/
def view (s : Session) : View where
  commands := s.registry.commands.map (·.info)
  entries := s.history.entries
  input := s.surface.input
  prompt := s.prompt
  colors := s.colors

/-- A way to submit a line. -/
abbrev Submit := Session → String → Session × Except Stop Bool

/-- Submits the input line and clears it. -/
def submitInputBy (submit : Submit) (s : Session) : Session × Except Stop Bool :=
  match s.writeInput "" with
  | (cleared, .error f) => (cleared, .error (.fault f))
  | (cleared, .ok ()) => submit cleared s.surface.input

/-- The fault of an outcome, if it has one; an interrupt is none. -/
def faultOf {α : Type} : Except Stop α → Option Fault
  | .error (.fault f) => some f
  | _ => none

/-- What has gone wrong, if anything. -/
def problem? {α : Type} : Except Fault α → Option Fault
  | .error f => some f
  | .ok _ => none

/-- Runs a script and gives back what it ends with. Lines that it submits go through `submit`. -/
def run (submit : Submit) : Script → Session → Session × Except Stop (Option Verdict)
  | .done verdict, s => (s, .ok verdict)
  | .stop why, s => (s, .error why)
  | .look next, s => run submit (next s.view) s
  | .write text next, s => run submit next (s.write text)
  | .clear next, s => run submit next s.clear
  | .hide next, s =>
    match s.hide with
    | (s, .error (.interrupt m)) => (s, .error (.interrupt m))
    | (s, .error (.fault f)) => run submit (next (some f)) s
    | (s, .ok ()) => run submit (next none) s
  | .clearHistory next, s =>
    match s.clearHistory with
    | (s, .error why) => (s, .error why)
    | (s, .ok ()) => run submit next s
  | .setPrompt symbol next, s => run submit next { s with prompt := symbol }
  | .paint colors next, s => run submit next (s.paint colors)
  | .setInput text next, s => run submit (next (problem? (s.setInput text).2)) (s.setInput text).1
  | .inputChanged text next, s => run submit next (s.inputChanged text)
  | .submit line next, s =>
    match submit s line with
    | (s, .error (.interrupt m)) => (s, .error (.interrupt m))
    | (s, .error (.fault f)) => run submit (next (.error f)) s
    | (s, .ok done) => run submit (next (.ok done)) s
  | .submitInput next, s =>
    match submitInputBy submit s with
    | (s, .error (.interrupt m)) => (s, .error (.interrupt m))
    | (s, .error (.fault f)) => run submit (next (.error f)) s
    | (s, .ok done) => run submit (next (.ok done)) s
  | .navigate direction next, s => run submit (next (s.navigate direction).2) (s.navigate direction).1
  | .complete next, s =>
    match s.complete with
    | (s, .error why) => (s, .error why)
    | (s, .ok line) => run submit (next line) s
  | .record line next, s =>
    match s.record line with
    | (s, .error why) => (s, .error why)
    | (s, .ok recorded) => run submit (next recorded) s
  | .register candidate next, s => run submit (next (faultOf (s.register candidate).2)) (s.register candidate).1
  | .unregister name next, s => run submit (next (s.unregister name).2.isSome) (s.unregister name).1

/-- Lets the validator of a command judge arguments. Without one they are accepted; one that ends without a verdict rejects
them. -/
def judge (submit : Submit) (s : Session) (command : Command) (args : List String) : Session × Except Stop Verdict :=
  match command.validator with
  | none => (s, .ok ⟨args, true⟩)
  | some check =>
    let (s, judged) := run submit (check args) s
    (s, judged.map fun verdict => verdict.getD ⟨args, false⟩)

/-- Reports a fault of a command, which has not run to completion then. If the message of the fault cannot be formed,
nothing is written, and the fault that is met there goes on. -/
def reportFault (s : Session) (command : String) (f : Fault) : Session × Except Stop Bool :=
  let noted := s.note [⟨.debug, Channel.session, s!"Command '{command}' raised", some f⟩]
  match f.message with
  | .ok message => (noted.writeLine s!"Error executing command '{command}': {message}", .ok false)
  | .error f => (noted, .error (.fault f))

/-- Reports that a validator rejected the arguments. A usage line that cannot be written is a fault of the command. -/
def reportRejection (s : Session) (command : String) (usage : Value) : Session × Except Stop Bool :=
  let told := s.writeLine s!"Error: Invalid arguments for command '{command}'"
  match usage.written with
  | .ok usage => (told.writeLine s!"Usage: {usage}", .ok false)
  | .error f => told.reportFault command f

/-- Carries out a command with arguments, under the name that it was called by: its validator judges them, and the action
runs for those that it accepts. Says whether it ran to completion. -/
def obey (submit : Submit) (s : Session) (name : String) (command : Command) (args : List String) :
    Session × Except Stop Bool :=
  match s.judge submit command args with
  | (s, .error (.fault f)) => s.reportFault name f
  | (s, .error why) => (s, .error why)
  | (s, .ok ⟨_, false⟩) => s.reportRejection name command.usage
  | (s, .ok ⟨args, true⟩) =>
    match run submit (command.action args) s with
    | (s, .ok _) => (s, .ok true)
    | (s, .error (.fault f)) => s.reportFault name f
    | (s, .error why) => (s, .error why)

/-- Executes a line: carries out the command that its first word names. -/
def execute (submit : Submit) (s : Session) (text : String) : Session × Except Stop Bool :=
  let (name, args) := Line.splitCommand text
  match s.registry.lookup name with
  | none => (s.writeLine s!"Command not found: {name}", .ok false)
  | some command => s.obey submit name command args

/-- Opens the execution of a line: ends completion and navigation and echoes the line. -/
def beginLine (s : Session) (text : String) : Session :=
  let s := { s.endCycle with history := s.history.resetNavigation }
  { s.writeLine s!"{s.prompt} {text}" with skipRecord := false }

/-- Closes the execution of a line: records it unless it is to be skipped. -/
def endLine (s : Session) (text : String) (result : Except Stop Bool) : Session × Except Stop Bool :=
  if s.skipRecord then ({ s with skipRecord := false }, result)
  else
    match s.record text with
    | (s, .error why) => (s, .error why)
    | (s, .ok _) => (s, result)

/-- What a line meets that is submitted from too deep a nesting. -/
def nestedTooDeep : Fault := ⟨.nesting, "maximum recursion depth exceeded"⟩

/-- Submits a line whose command may submit lines itself, `depth` levels in all. -/
def submitWithin : Nat → Submit
  | 0, s, _ => (s, .error (.fault nestedTooDeep))
  | depth + 1, s, line =>
    let text := strip line
    if text.isEmpty then (s, .ok false)
    else
      let (s, result) := execute (submitWithin depth) (s.beginLine text) text
      s.endLine text result

/-- How many levels of submissions a session allows. The host limits how deep calls are nested, not submissions; this is what
the limit leaves room for where a console is driven from the outermost level of a program. -/
def nestingLimit : Nat := 247

/-- Submits a line: says whether its command ran to completion. -/
def submit : Submit := submitWithin nestingLimit

/-- Submits the input line and clears it. -/
def submitInput (s : Session) : Session × Except Stop Bool := submitInputBy submit s

end Session

end CommandConsole
