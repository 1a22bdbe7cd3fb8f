import CommandConsole.Command.Defaults
import CommandConsole.Session.Basic
import CommandConsole.Settings.Basic

/-!
# Starting a session

A session starts on a surface, with a registry, a store for its history and settings: it reads the history back, installs the
default commands and shows the greeting.
-/

namespace CommandConsole

/-- What a session starts with. -/
structure Session.Setup where
  surface : Surface := {}
  registry : Registry := {}
  storage : Storage := {}
  settings : Settings := {}
  exitHandler : ExitHandler := .absent
  installsDefaults : Bool := true

namespace Session

/-- Shows the greeting, unless it is empty or missing. -/
def greet (s : Session) : Option String → Session
  | none => s
  | some welcome => if welcome.isEmpty then s else s.writeLine welcome

/-- Starts a session. A history without room and an interrupted read of the store prevent it. -/
def start (setup : Setup) : Except Stop Session := do
  let step ← (History.init setup.storage setup.settings.historySize setup.settings.historyKey).mapError .fault
  step.result
  let session : Session := {
    surface := setup.surface
    completion := { registry := if setup.installsDefaults then Defaults.install setup.registry else setup.registry }
    history := step.state
    prompt := setup.settings.promptSymbol
    completes := setup.settings.completes
    exitHandler := setup.exitHandler
    notes := step.notes }
  return session.greet setup.settings.welcome

end Session

end CommandConsole
