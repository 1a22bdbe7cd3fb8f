import CommandConsole.Settings.Sources

/-!
# Building settings

`Settings.build` checks the ten settings one after the other and gives the first fault that it meets. A setting may be a
value of its own kind or a text; the texts `none` and the blank ones switch an optional setting off. Texts are settings as
they are shown; only a location is found by its code points.
-/

namespace CommandConsole.Settings

/-- The text of an optional setting. -/
def optionalText (v : Value) : Except Fault (Option String) :=
  match v with
  | .null => .ok none
  | _ => (Value.written v).map fun s => if lowerCase (strip s) ∈ ["", "none"] then none else some s

/-- The text of a setting that must be given. -/
def requiredText (name : String) (v : Value) : Except Fault String := do
  match ← optionalText v with
  | none => throw (.badValue s!"{name} must not be empty")
  | some s => return s

/-- A number. -/
def number (v : Value) : Except Fault Int :=
  match v with
  | .int n => .ok n
  | _ => do
    match parseInteger (strip (← Value.written v)) with
    | .ok n => return n
    | .error _ => throw (.badValue s!"Expected integer, got: {v.display}")

/-- The words for a switch. -/
def switchWords : List (String × Bool) :=
  [("1", true), ("true", true), ("yes", true), ("y", true), ("on", true),
   ("0", false), ("false", false), ("no", false), ("n", false), ("off", false)]

/-- A switch. -/
def switch (v : Value) : Except Fault Bool :=
  match v with
  | .bool b => .ok b
  | _ => do
    match switchWords.lookup (lowerCase (strip (← Value.written v))) with
    | some b => return b
    | none => throw (.badValue s!"Expected boolean, got: {v.display}")

/-- A text in which a backslash and an `n` have become a line feed. -/
def unescapeNewlines : List Char → List Char
  | [] => []
  | '\\' :: 'n' :: cs => '\n' :: unescapeNewlines cs
  | c :: cs => c :: unescapeNewlines cs

/-- The greeting. -/
def greeting (v : Value) : Except Fault (Option String) :=
  (optionalText v).map fun text? => text?.map fun s => String.ofList (unescapeNewlines s.toList)

/-- The size of the history. -/
def size (v : Value) : Except Fault Int := do
  let n ← number v
  if n < 1 then throw (.badValue "HISTORY_SIZE must be >= 1")
  return n

/-- The form of a package name: a letter or an underscore, then word characters and dots. -/
def isPackageName (s : String) : Bool :=
  match s.toList with
  | [] => false
  | c :: cs => (c.isAlpha || c = '_') && cs.all fun c => isWordChar c || c = '.'

/-- The package of plugins. -/
def package (v : Value) : Except Fault (Option String) := do
  match ← optionalText v with
  | none => return none
  | some s =>
    if isPackageName s then return some s
    else throw (.badValue s!"PLUGIN_PACKAGE must be a dotted module name, got {quotePoints v.points}")

/-- The levels that can be set. -/
def levelNames : List String := ["CRITICAL", "DEBUG", "ERROR", "INFO", "WARNING"]

/-- The level of the log. -/
def level (v : Value) : Except Fault (Option String) := do
  match (← optionalText v).map upperCase with
  | none => return none
  | some s =>
    if s ∈ levelNames then return some s
    else
      let choice := (Value.list (levelNames.map .string)).display
      throw (.badValue s!"LOG_LEVEL must be one of {choice}, got {quotePoints (upperPoints v.points)}")

/-- A path. -/
def path (h : Host) (v : Value) : Except Fault (Option String) := do
  match ← optionalText v with
  | none => return none
  | some _ => return some (← h.resolve v.points)

/-- Checks the settings and puts them together. -/
def build (h : Host) (entries : Entries) : Except Fault Settings := do
  let setting (name : String) : Value := (entries.lookup name).getD .null
  let promptSymbol ← requiredText "PROMPT_SYMBOL" (setting "PROMPT_SYMBOL")
  let welcome ← greeting (setting "WELCOME_MESSAGE")
  let historySize ← size (setting "HISTORY_SIZE")
  let historyKey ← requiredText "HISTORY_KEY" (setting "HISTORY_KEY")
  let pluginPackage ← package (setting "PLUGIN_PACKAGE")
  let logLevel ← level (setting "LOG_LEVEL")
  let historyPath ← path h (setting "HISTORY_DB_PATH")
  let completes ← switch (setting "ENABLE_COMPLETION")
  let showsBootSteps ← switch (setting "SHOW_BOOT_STEPS")
  let logPath ← path h (setting "LOG_FILE_PATH")
  return {
    promptSymbol, welcome, historySize, historyKey, pluginPackage, logLevel, historyPath, completes, showsBootSteps, logPath
    extra := entries.filter fun (k, _) => ((defaults h).lookup k).isNone }

/-- The settings that hold in a working directory: `find` gives the contents of the files that can be read there, and
`environment` the variables that settings may come from. -/
def load (h : Host) (find : String → Option ByteArray) (environment : List (String × String)) : Except Fault Settings := do
  build h (← merged h find environment)

end CommandConsole.Settings
