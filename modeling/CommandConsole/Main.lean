import CommandConsole.Boot.Sequence
import CommandConsole.Storage.TableText

/-!
# The program

The console as a program: it boots in the working directory and reads lines from its input. This layer only reads and
writes; what is printed and what is kept is decided by the boot and by the session.
-/

namespace CommandConsole.Program

/-- The variables of the process: the system lists them with a zero byte behind each. -/
def readVariables : IO (List (String × String)) := do
  let bytes ← try IO.FS.readBinFile "/proc/self/environ" catch _ => pure .empty
  let entries := ((String.fromUTF8? bytes).getD "").splitOn "\x00"
  return entries.filterMap fun entry =>
    match entry.splitOn "=" with
    | name :: parts => if name.isEmpty then none else some (name, "=".intercalate parts)
    | [] => none

/-- A file, if it can be read. -/
def readFile? (path : String) : IO (Option ByteArray) := do
  try return some (← IO.FS.readBinFile path) catch _ => return none

/-- Takes a file over into a disk. -/
def mount (make : ByteArray → DiskNode) (d : Disk) (path : String) : IO Disk := do
  return ((← readFile? path).map fun bytes => d.put path (make bytes)).getD d

/-- A database that was kept as a file. -/
def databaseNode (bytes : ByteArray) : DiskNode :=
  match (String.fromUTF8? bytes).bind Table.decode with
  | some table => .database table
  | none => .file bytes

/-- The first line of a file. -/
def firstLine (path : String) : IO String := do
  return ((((← readFile? path).bind String.fromUTF8?).getD "").splitOn "\n").headD ""

/-- The system that the program runs on. -/
def platform : IO String := do
  let system ← firstLine "/proc/sys/kernel/ostype"
  let release ← firstLine "/proc/sys/kernel/osrelease"
  return s!"{system} {release}"

/-- The present time. -/
def presentTime : IO String := do
  try
    let process := (← IO.currentDir) / "/proc/self"
    return secondsText (← process.metadata).modified.sec.toNat
  catch _ => return ""

/-- Writes one file of a disk. -/
def saveFile (d : Disk) (path : String) : IO Unit := do
  try IO.FS.createDirAll (Disk.pathOf (Disk.components path).dropLast) catch _ => pure ()
  match d.find? path with
  | some (.file bytes) => IO.FS.writeBinFile path bytes
  | some (.database table) => IO.FS.writeFile path table.encode
  | _ => pure ()

/-- Prints what is on the screens and empties them, and saves the files that are written to. -/
def output (b : Boot) (paths : List String) : IO Boot := do
  let out ← IO.getStdout
  out.putStr b.frontend.screen.text
  out.flush
  (← IO.getStderr).putStr b.log.errors.text
  for path in paths do saveFile b.log.disk path
  return { b with
    frontend := { b.frontend with screen := { b.frontend.screen with text := "" } }
    log := { b.log with errors := { b.log.errors with text := "" } } }

/-- Reads and submits lines until the session asks to leave or the input ends. -/
partial def serve (b : Boot) (settings : Settings) (paths : List String) : IO Unit := do
  let b ← output { b with frontend := b.frontend.showPrompt } paths
  let line ← (← IO.getStdin).getLine
  if line.isEmpty then return
  let (frontend, _) := b.frontend.submit (Frontend.dropLineEnd line)
  let b ← output (({ b with frontend } : Boot).flush.keepHistory settings.historyPath) paths
  if b.frontend.running then serve b settings paths

/-- The settings that a boot will find, as far as they tell which files it opens. -/
def openedFiles (setup : BootSetup) (d : Disk) : Option String × Option String :=
  match Settings.load setup.host (fun name => d.read? s!"{setup.host.directory}/{name}") setup.environment with
  | .ok s => (s.historyPath, s.logPath)
  | .error _ => (none, none)

/-- Boots and serves; gives the exit status. -/
def run : IO UInt32 := do
  let environment ← readVariables
  let directory := (← IO.currentDir).toString
  let inputIsTerminal ← (← IO.getStdin).isTty
  let outputIsTerminal ← (← IO.getStdout).isTty
  let setup : BootSetup := {
    host := { environment, home := (environment.lookup "HOME").getD "/", directory }
    environment, inputIsTerminal, outputIsTerminal
    platform := ← platform }
  let mut disk : Disk := {}
  for (name, _) in Settings.files do disk ← mount .file disk s!"{directory}/{name}"
  let (history, log) := openedFiles setup disk
  for path in history.toList do disk ← mount databaseNode disk path
  for path in log.toList do disk ← mount .file disk path
  let noColor := environment.lookup "NO_COLOR"
  let b : Boot := {
    frontend := { screen := { showsEscapes := Screen.accepts noColor outputIsTerminal } }
    log := {
      errors := { showsEscapes := Screen.accepts noColor (← (← IO.getStderr).isTty) }
      disk
      stamp := ← presentTime } }
  let paths := history.toList ++ log.toList
  let (b, result) := b.start setup.plan
  let b ← output b paths
  match result with
  | .error _ => return 1
  | .ok r =>
    serve { b with frontend := { b.frontend with running := true } } r.settings paths
    return 0

end CommandConsole.Program

/-- Runs the console. -/
def main : IO UInt32 := CommandConsole.Program.run
