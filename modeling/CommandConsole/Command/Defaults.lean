import CommandConsole.Command.Registry

/-!
# Default commands

Every console has `help`, `clear`, `about`, `clearHistory` and `exit`, unless a command of that name is there already.
-/

namespace CommandConsole.Defaults

/-- The hint below the list of commands. -/
def helpHint : String := "Type \"help <command>\" for more information about a specific command."

/-- The lines about the console. -/
def aboutLines : List String :=
  ["Termcore - an embeddable command console", "Type \"help\" to see available commands."]

/-- One command explained: the command of the given name, or the news that there is none. -/
def explain (name : String) (v : View) : List (Except Fault String) :=
  match v.commands.find? (·.key == lowerCase name) with
  | none => [.ok s!"Command not found: {lowerCase name}"]
  | some c =>
    [c.description.written.map fun text => s!"{c.name}: {text}", c.usage.written.map fun text => s!"Usage: {text}"]

/-- All commands, a line each. -/
def overview (v : View) : List (Except Fault String) :=
  .ok "Available commands:" :: v.commands.map (fun c => c.description.written.map fun text => s!"  {c.name}: {text}") ++
    [.ok s!"\n{helpHint}"]

/-- Explains the command that the first argument names, or lists all. -/
def helpAction (args : List String) : Script :=
  .look fun v => .writeFormed .done (match args with | [] => overview v | name :: _ => explain name v)

/-- Offers the names of commands as the first argument. -/
def completeHelp (r : CompletionRequest) : Except Stop Value :=
  .ok (.list (if r.position = 1 then (r.matchPrefix r.partialArg).map .string else []))

/-- The default commands. -/
def commands : List Command :=
  [{ name := "help", action := helpAction, description := .string "Display available commands",
     usage := .string "help [command]", completer := some completeHelp },
   { name := "clear", action := fun _ => .clear .done, description := .string "Clear the terminal screen",
     usage := .string "clear" },
   { name := "about", action := fun _ => .writeLines aboutLines .done,
     description := .string "Display information about the terminal", usage := .string "about" },
   { name := "clearHistory", action := fun _ => .clearHistory (.writeLine "History cleared." .done),
     description := .string "Clear the terminal history", usage := .string "clearHistory" },
   { name := "exit", action := fun _ => .hide (Script.done.orFail), description := .string "Minimises the terminal",
     usage := .string "exit" }]

/-- A registry with the default commands that it did not have under their names. -/
def install (r : Registry) : Registry :=
  commands.foldl (fun r c => if r.contains c.name then r else r.insert c) r

end CommandConsole.Defaults
