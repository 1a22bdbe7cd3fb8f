import CommandConsole.Disk
import CommandConsole.Log.Record
import CommandConsole.Log.Template
import CommandConsole.Terminal.Style
import CommandConsole.Text.Lines
import CommandConsole.Text.UpperCase

/-!
# Loggers

A logger takes the records of its channel and of those below it and hands them to its handlers, which show them on the
console or append them to a file. `Log.configure` sets a logger up; later calls change its level, but keep the handlers
that are there.
-/

namespace CommandConsole

/-- Where a logger hands its records, from a level on. -/
inductive Handler where
  /-- Records are shown on the console. -/
  | console (level : Level)
  /-- Records are appended to the file at a place. -/
  | file (level : Level) (place : String)
  deriving Repr, DecidableEq

namespace Handler

/-- The level from which records are handled. -/
def level : Handler → Level
  | console level => level
  | file level _ => level

/-- A handler for the console. -/
def isConsole : Handler → Bool
  | console _ => true
  | file .. => false

/-- A handler for a file. -/
def isFile : Handler → Bool
  | console _ => false
  | file .. => true

end Handler

/-- Where records of a channel go. -/
structure Logger where
  /-- Less grave records are not taken. Without a level, that of the channel above counts. -/
  level : Level := .notSet
  handlers : List Handler := []
  deriving Repr, DecidableEq

/-- A level as it is asked for: by its rank or by its name. Any other value is none. -/
inductive LevelChoice where
  | level (l : Level)
  | name (s : String)
  | value (v : Value)
  deriving Repr

namespace LevelChoice

/-- The names of the levels, and those that mean the same. -/
def names : List (String × Level) :=
  Level.named.map (fun (l, text) => (text, l)) ++ [("WARN", .warning), ("FATAL", .critical)]

/-- The level that is meant, or the fault that the name means none. -/
def level? : LevelChoice → Except Fault Level
  | level l => .ok l
  | name s =>
    match names.lookup (upperCase s) with
    | some l => .ok l
    | none =>
      let shown := "Level " ++ upperCase s
      .error (.badValue s!"Unknown level: {quote shown}")
  | value v =>
    match v.shown with
    | .ok text => .error (.badType s!"Level not an integer or a valid string: {text}")
    | .error f => .error f

end LevelChoice

namespace Logger

/-- The style of a level on the console; others have none. -/
def styleOf (l : Level) : Option String :=
  [(Level.debug.rank, "bright_black"), (Level.warning.rank, "yellow"), (Level.error.rank, "red"),
    (Level.critical.rank, "magenta")].lookup l.rank

/-- A logger with one more handler. -/
def adding (l : Logger) (h : Handler) : Logger := { l with handlers := l.handlers ++ [h] }

/-- Gives a logger a handler for the console, if it has none. -/
def withConsole (l : Logger) (choice : LevelChoice) : Except Fault Logger :=
  if l.handlers.any (·.isConsole) then .ok l else choice.level?.map fun level => l.adding (.console level)

/-- Sets the level of a logger; one that writes to a file takes all from the level of developers on. -/
def withLevel (l : Logger) (choice : LevelChoice) (toFile : Bool) : Except Fault Logger :=
  if toFile then .ok { l with level := .debug } else choice.level?.map fun level => { l with level }

end Logger

/-- The loggers, and where their records end up. -/
structure Log where
  loggers : List (String × Logger) := []
  /-- The error stream. -/
  errors : Screen := ⟨false, ""⟩
  disk : Disk := {}
  /-- The time that stands in front of a record in a file. -/
  stamp : String := ""
  /-- The account of a fault that follows a record. -/
  account : Fault → String := Fault.account

namespace Log

/-- Sets the logger of a channel. -/
def setLogger (channel : String) (l : Logger) : List (String × Logger) → List (String × Logger)
  | [] => [(channel, l)]
  | (c, k) :: rest => if c = channel then (c, l) :: rest else (c, k) :: setLogger channel l rest

/-- The channel above all others. -/
def rootChannel : String := "root"

/-- The channel that a value names; one that counts as false names the root. -/
def channelOf (v : Value) : Except Fault String :=
  match v.text? with
  | some s => .ok (if s.isEmpty then rootChannel else s)
  | none => if v.truthy then .error (.badType "A logger name must be a string") else .ok rootChannel

/-- A logger that has not been set up: only that of the root has a level. -/
def fresh (channel : String) : Logger := if channel = rootChannel then { level := .warning } else {}

/-- The logger of a channel. -/
def logger (g : Log) (channel : String) : Logger := (g.loggers.lookup channel).getD (fresh channel)

/-- A log with another logger for a channel. -/
def withLogger (g : Log) (channel : String) (l : Logger) : Log := { g with loggers := setLogger channel l g.loggers }

/-- Opens the file of a logger, unless there is none to open or it has one already. A file takes all from the level of
developers on. -/
def openFile (g : Log) (channel : String) (l : Logger) (file : Option String) : Log × Except Fault Unit :=
  match file with
  | none => (g.withLogger channel l, .ok ())
  | some path =>
    if l.handlers.any (·.isFile) then (g.withLogger channel l, .ok ())
    else
      match g.disk.openText path with
      | (disk, .ok place) => ({ g with disk }.withLogger channel (l.adding (.file .debug place)), .ok ())
      | (disk, .error f) => ({ g with disk }.withLogger channel l, .error f)

/-- Sets the logger of a channel up to show records from a level on and to write to a file, if one is given. The file of a
logger that has one already stays the same, and so does the level of its console. What was set up before a fault stays. -/
def configure (g : Log) (channel : String) (choice : LevelChoice) (file : Option String) : Log × Except Fault Unit :=
  match (g.logger channel).withLevel choice file.isSome with
  | .error f => (g, .error f)
  | .ok l =>
    match l.withConsole choice with
    | .error f => (g.withLogger channel l, .error f)
    | .ok l => g.openFile channel l file

/-- A channel and the channels above it, from the nearest on; the root comes last. -/
def channelsFrom (channel : String) : List String :=
  let parts := piecesAt '.' channel.toList
  (List.range parts.length).reverse.map (fun n => String.ofList (['.'].intercalate (parts.take (n + 1)))) ++ [rootChannel]

/-- The least level of the records that are taken from a channel. -/
def threshold (g : Log) (channel : String) : Level :=
  (((channelsFrom channel).map fun c => (g.logger c).level).find? (·.rank ≠ 0)).getD .notSet

/-- The nearest logger at or above a channel. -/
def takerOf (g : Log) (channel : String) : Option Logger := (channelsFrom channel).findSome? fun c => g.loggers.lookup c

/-- The text of a record, with the account of its fault below it. -/
def textOf (g : Log) (r : LogRecord) : String :=
  match r.fault with
  | none => r.message
  | some f => r.message ++ "\n" ++ g.account f

/-- Shows a record on the console. -/
def showRecord (g : Log) (r : LogRecord) : Log :=
  let line := s!"[{r.level.name}] {g.textOf r}"
  { g with errors := g.errors.printLine (styled line (Logger.styleOf r.level).toList) }

/-- Appends a record to a file. Files are not rolled over here: the file of a console goes on in a new one when it is about
to hold more than 2000000 bytes, and the last 3 are kept besides it. -/
def appendRecord (g : Log) (path : String) (r : LogRecord) : Log :=
  { g with disk := g.disk.append path (stripEscapes s!"{g.stamp} [{r.level.name}] {r.channel}: {g.textOf r}" ++ "\n") }

/-- A record is taken if its level is positive and not below the threshold of its channel. -/
def takes (g : Log) (r : LogRecord) : Bool := 0 < r.level.rank && (g.threshold r.channel).rank ≤ r.level.rank

/-- Lets a handler handle a record. -/
def handle (r : LogRecord) (g : Log) (h : Handler) : Log :=
  if h.level.rank ≤ r.level.rank then
    match h with
    | .console _ => g.showRecord r
    | .file _ place => g.appendRecord place r
  else g

/-- Hands a record to the handlers of the logger that takes it, one after the other. -/
def emit (g : Log) (r : LogRecord) : Log :=
  if g.takes r then
    match g.takerOf r.channel with
    | none => g
    | some l => l.handlers.foldl (handle r) g
  else g

/-- Hands over records, one after the other. -/
def emitAll (g : Log) (rs : List LogRecord) : Log := rs.foldl emit g

/-- Writes a record whose message is a template with values. A message that does not fit its values is dropped. -/
def write (g : Log) (channel : String) (level : Level) (template : String) (values : List Value) : Log :=
  match Template.fill template values with
  | none => g
  | some message => g.emit ⟨level, channel, message, none⟩

end Log

end CommandConsole
