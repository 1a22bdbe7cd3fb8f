import CommandConsole.Boot.Report
import CommandConsole.Plugin.Package
import CommandConsole.Settings.Build

/-!
# The boot sequence

Booting loads the settings, sets up the log, opens the store of the history, selects a frontend unless one is given, starts
the session and loads the commands of the configured package. What these steps do is a `BootPlan`, and `BootSetup.plan` is
the console's own one. `Boot.start` runs the sequence; `Boot.serve` then reads lines until the session asks to leave.
-/

namespace CommandConsole

/-- What a boot starts from. -/
structure BootSetup where
  host : Host
  /-- The variables that settings may come from. -/
  environment : List (String × String)
  /-- The description of the computer that the report shows. -/
  platform : String
  /-- The packages that can be imported. -/
  world : World := World.console
  /-- The frontend was made before; otherwise one is selected, an editing one for a terminal. -/
  hasFrontend : Bool := false
  inputIsTerminal : Bool := false
  outputIsTerminal : Bool := false

/-- What a boot has settled. -/
structure BootResult where
  settings : Settings
  /-- How many modules commands were loaded from. -/
  loaded : Nat

/-- What the steps of a boot do. -/
structure BootPlan where
  /-- The description of the computer that the report shows. -/
  platform : String
  /-- The frontend was made before; otherwise one is selected. -/
  hasFrontend : Bool
  loadSettings : Booting Settings
  openLog : Settings → Booting Unit
  openStorage : Settings → Booting Storage
  selectFrontend : Booting Unit
  startSession : Settings → Storage → Booting Unit
  loadPackage : String → Booting Nat

namespace Boot

/-- Notes how much history there is. -/
def noteRestored (b : Boot) : Boot :=
  let b := b.flush
  let count := ((b.frontend.session.map fun s => s.history.entries.length)).getD 0
  { b with log := b.log.emit ⟨.debug, Channel.console, s!"Restored {count} history entries", none⟩ }

/-- The number of commands. -/
def commandCount (b : Boot) : Nat := (b.frontend.session.map fun s => s.registry.entries.length).getD 0

end Boot

namespace Booting

/-- The outcome of something that may fail. -/
def ofExcept {α : Type} : Except Fault α → Booting α
  | .ok a => pure a
  | .error f => throw (.fault f)

/-- The settings of the working directory. -/
def loadSettings (setup : BootSetup) : Booting Settings := do
  let disk := (← get).log.disk
  ofExcept (Settings.load setup.host (fun name => disk.read? s!"{setup.host.directory}/{name}") setup.environment)

/-- Sets up the log of the whole console. -/
def openLog (settings : Settings) : Booting Unit := do
  let choice := (settings.logLevel.map LevelChoice.name).getD (.level .warning)
  let (log, result) := (← get).log.configure Channel.console choice settings.logPath
  modify fun b => { b with log }
  ofExcept result

/-- Opens the store of the history: a database, or one in memory if there is no path. -/
def openStorage (settings : Settings) : Booting Storage :=
  match settings.historyPath with
  | none => return {}
  | some path => do
    let (disk, result) := (← get).log.disk.openTable path
    modify fun b => { b with log := { b.log with disk } }
    return { table := ← ofExcept result }

/-- Selects the kind of frontend. -/
def selectFrontend (setup : BootSetup) : Booting Unit :=
  modify fun b =>
    { b with
      frontend := { b.frontend with kind := .choose none setup.inputIsTerminal setup.outputIsTerminal } }

/-- Starts the session on the frontend. -/
def startSession (settings : Settings) (storage : Storage) : Booting Unit := do
  match (← get).frontend.attach storage settings with
  | .error why => throw why
  | .ok frontend => modify fun b => { b with frontend }

/-- Loads the commands of a package. -/
def loadPackage (setup : BootSetup) (package : String) : Booting Nat := do
  let b ← get
  match b.frontend.session with
  | none => return 0
  | some s =>
    let step := s.registry.loadCommands setup.world package
    set (b.withSession ((s.note step.notes).withRegistry step.state)).flush
    match step.result with
    | .ok n => return n
    | .error why => throw why

/-- The boot sequence. -/
def sequence (plan : BootPlan) : Booting BootResult := do
  let settings ← step "Load configuration" false plan.loadSettings
  let verbose := settings.showsBootSteps
  step s!"Detect environment: {plan.platform}" verbose (pure ())
  step "Initialize logger" verbose (plan.openLog settings)
  let place := settings.historyPath.getD "memory"
  let storage ← step s!"Open history storage ({place})" verbose (plan.openStorage settings)
  if !plan.hasFrontend then step "Select frontend" verbose plan.selectFrontend
  step "Build interpreter" verbose (plan.startSession settings storage)
  modify Boot.noteRestored
  let loaded ← match settings.pluginPackage with
    | none => pure 0
    | some package => step s!"Load commands from '{package}'" verbose (plan.loadPackage package)
  step s!"Boot complete ({(← get).commandCount} commands)" verbose (pure ())
  return ⟨settings, loaded⟩

end Booting

/-- What the steps of the console's own boot do. -/
def BootSetup.plan (setup : BootSetup) : BootPlan where
  platform := setup.platform
  hasFrontend := setup.hasFrontend
  loadSettings := Booting.loadSettings setup
  openLog := Booting.openLog
  openStorage := Booting.openStorage
  selectFrontend := Booting.selectFrontend setup
  startSession := Booting.startSession
  loadPackage := Booting.loadPackage setup

namespace Boot

/-- Boots a console. -/
def start (b : Boot) (plan : BootPlan) : Boot × Except Stop BootResult :=
  let (result, b) := (Booting.sequence plan).run.run b
  (b, result)

/-- Keeps the history of the session in its database. -/
def keepHistory (b : Boot) (path : Option String) : Boot :=
  match path, b.frontend.session with
  | some path, some s => { b with log := { b.log with disk := b.log.disk.keepTable path s.history.storage.table } }
  | _, _ => b

/-- Reads and submits lines until the session asks to leave or the input ends. -/
def serve (b : Boot) (reads : List Read) : Boot × Except Stop Unit :=
  let (frontend, _, result) := b.frontend.run reads
  ({ b with frontend }.flush, result)

/-- Boots a console and lets it read lines: the exit status is one if the boot fails. -/
def main (b : Boot) (plan : BootPlan) (reads : List Read) : Boot × Except Stop Nat :=
  match b.start plan with
  | (b, .error (.fault _)) => (b, .ok 1)
  | (b, .error why) => (b, .error why)
  | (b, .ok r) =>
    let (b, result) := b.serve reads
    ({ b.keepHistory r.settings.historyPath with frontend := b.frontend.stop }, result.map fun () => 0)

end Boot

end CommandConsole
