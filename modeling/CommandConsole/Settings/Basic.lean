import CommandConsole.Value

/-!
# Settings

The ten settings of a console, with their defaults, and the settings of others that are kept along with them.
-/

namespace CommandConsole

/-- The version of the console. -/
def version : String := "1.0.0"

/-- The greeting of a console that was given none. -/
def defaultWelcome : String := s!"Termcore v{version}\nType \"help\" for available commands."

/-- The package whose commands are loaded unless another one is configured. -/
def bundledPackage : String := "termcore.plugins"

/-- What a console can be told before it starts. -/
structure Settings where
  promptSymbol : String := ">"
  welcome : Option String := some defaultWelcome
  historySize : Int := 100
  historyKey : String := "termcore.history"
  historyPath : Option String := none
  pluginPackage : Option String := some bundledPackage
  completes : Bool := true
  showsBootSteps : Bool := false
  logLevel : Option String := none
  logPath : Option String := none
  /-- Settings that are none of the ten. -/
  extra : List (String × Value) := []

end CommandConsole
