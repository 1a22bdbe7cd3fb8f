import CommandConsole.Json.Reader
import CommandConsole.Settings.Basic
import CommandConsole.Settings.DotEnv
import CommandConsole.Settings.Flat
import CommandConsole.Settings.Ini
import CommandConsole.Settings.Location
import CommandConsole.Text.Integer
import CommandConsole.Toml.Document

/-!
# Sources of settings

Settings come from the defaults, from four files in the working directory and from variables; a later source counts before
an earlier one. A file that is missing or cannot be read says nothing; only a number with too many digits in it and values
that are nested too deep are faults.
-/

namespace CommandConsole.Settings

/-- A reader of files of one format. -/
abbrev Reader := ByteArray → Except Fault Entries

/-- The characters of a text file: they must be in UTF-8, and any line end counts as a line feed. -/
def textOf (bytes : ByteArray) : Option (List Char) := (String.fromUTF8? bytes).map fun s => unifyNewlines s.toList

/-- Settings that are texts. -/
def ofTexts (pairs : List (String × String)) : Entries := Entries.putAll [] (pairs.map fun (k, v) => (k, .string v))

/-- Reads a file of assignments. -/
def readDotEnv : Reader := fun bytes => .ok (((textOf bytes).map fun cs => ofTexts (DotEnv.parse cs)).getD [])

/-- Reads a sectioned file; its sections only group. -/
def readIni : Reader := fun bytes =>
  .ok (((textOf bytes).bind Ini.parse |>.map fun d => ofTexts (d.entries.map fun (k, v) => (upperCase k, v))).getD [])

/-- Reads a JSON file. -/
def readJson : Reader := fun bytes =>
  match textOf bytes with
  | none => .ok []
  | some cs =>
    match Json.parse (String.ofList cs) with
    | .ok (.table entries) => flatten? maxTables entries
    | .error (.tooManyDigits n) => .error (.badValue (tooLongMessage n))
    | .error (.tooDeep innermost) => .error (Json.tooDeepFault innermost)
    | _ => .ok []

/-- The fault of a TOML file in which too many lists and tables are open at a time. -/
def tooDeepFault : Fault := ⟨.nesting, "maximum recursion depth exceeded"⟩

/-- Reads a TOML file. -/
def readToml : Reader := fun bytes =>
  match String.fromUTF8? bytes with
  | none => .ok []
  | some s =>
    match Toml.parse s.toList with
    | .ok entries => flatten? maxTables entries
    | .error (.tooManyDigits n) => .error (.badValue (tooLongMessage n))
    | .error .tooDeep => .error tooDeepFault
    | .error .malformed => .ok []

/-- The files that settings are read from, and their formats. -/
def files : List (String × Reader) :=
  [(".env", readDotEnv), ("config.ini", readIni), ("config.json", readJson), ("config.toml", readToml)]

/-- What a file contributes. -/
def contribution (find : String → Option ByteArray) (file : String × Reader) : Except Fault Entries :=
  match find file.1 with
  | none => .ok []
  | some bytes => file.2 bytes

/-- What the variables of settings begin with. -/
def variablePrefix : String := "TERMCORE_"

/-- A character of the name of a variable that is a setting. -/
def isSettingChar (c : Char) : Bool := c.isUpper || c.isDigit || c = '_'

/-- The setting that a variable is. -/
def ofVariable (assigned : String × String) : Option (String × Value) :=
  let (name, text) := assigned
  if name.startsWith variablePrefix && name.toList.all isSettingChar then
    some (String.ofList (name.toList.drop variablePrefix.length), .string text)
  else none

/-- The settings that hold where no source says anything. -/
def defaults (h : Host) : Entries :=
  [("PROMPT_SYMBOL", .string ">"),
   ("WELCOME_MESSAGE", .string defaultWelcome),
   ("HISTORY_SIZE", .int 100),
   ("HISTORY_KEY", .string "termcore.history"),
   ("HISTORY_DB_PATH", .string s!"{h.homeAtStart}/.local/share/Termcore/history.db"),
   ("PLUGIN_PACKAGE", .string bundledPackage),
   ("ENABLE_COMPLETION", .bool true),
   ("SHOW_BOOT_STEPS", .bool false),
   ("LOG_LEVEL", .null),
   ("LOG_FILE_PATH", .null)]

/-- The settings of all sources together. -/
def merged (h : Host) (find : String → Option ByteArray) (environment : List (String × String)) :
    Except Fault Entries := do
  let contributions ← files.mapM (contribution find)
  return Entries.putAll (contributions.foldl Entries.putAll (defaults h)) (environment.filterMap ofVariable)

end CommandConsole.Settings
