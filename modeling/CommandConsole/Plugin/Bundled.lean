import CommandConsole.Command.Registry
import CommandConsole.Text.Integer

/-!
# Bundled commands

The commands that come along with the console: `history` and `prompt`, which look at or change the session, and `echo`,
`greet` and `color`, which work on their arguments.
-/

namespace CommandConsole.Bundled

/-! ## Session -/

/-- The number of entries that is asked for, if the arguments ask for one: decimal digits of any script, not zero. -/
def checkCount (args : List String) : Except Stop Bool :=
  match args with
  | [] => .ok true
  | [word] =>
    if word.isEmpty || !word.toList.all isDecimalDigit then .ok false
    else
      match parseInteger word with
      | .ok n => .ok (n > 0)
      | .error (.tooLong digits) => .error (.fault (.badValue (tooLongMessage digits)))
      | .error .malformed => .ok false
  | _ => .ok false

/-- A text moved to the right end of a column. -/
def alignRight (width : Nat) (s : String) : String := String.ofList (List.replicate (width - s.length) ' ') ++ s

/-- Entries with their numbers, the first of which is given. -/
def numbered (first : Nat) : List String → List String
  | [] => []
  | line :: rest => s!"{alignRight 4 (toString first)}  {line}" :: numbered (first + 1) rest

/-- The last entries of a history under their positions in the whole. -/
def listing (entries : List String) (count : Nat) : List String :=
  let shown := entries.drop (entries.length - count)
  if shown.isEmpty then ["History is empty."] else numbered (entries.length - shown.length + 1) shown

/-- How many entries the arguments ask for. -/
def countOf (args : List String) (all : Nat) : Nat :=
  match args with
  | [] => all
  | word :: _ =>
    match parseInteger word with
    | .ok n => n.toNat
    | .error _ => all

/-- Lists the history. -/
def historyCommand : Command where
  name := "history"
  action := fun args => .look fun v => .writeLines (listing v.entries (countOf args v.entries.length)) .done
  description := .string "Show previously entered commands"
  usage := .string "history [count]"
  validator := some fun args => .judge args (checkCount args)

/-- A validator for one argument exactly. -/
def oneArgument : Validator := fun args => .judge args (.ok (args.length == 1))

/-- Changes the prompt symbol. -/
def promptCommand : Command where
  name := "prompt"
  action := fun args =>
    let symbol := args.headD ""
    .setPrompt symbol (.writeLine s!"Prompt set to '{symbol}'." .done)
  description := .string "Change the prompt symbol"
  usage := .string "prompt <symbol>"
  validator := some oneArgument

/-- The commands on the session. -/
def sessionCommands : List Command := [historyCommand, promptCommand]

/-! ## Text -/

/-- The colours that can be picked. -/
def colorNames : List String := ["black", "blue", "cyan", "green", "magenta", "red", "white", "yellow"]

/-- The layers of the console. -/
inductive Layer where
  | background
  | foreground
  deriving Repr, DecidableEq

/-- The layers and their names. -/
def layers : List (String × Layer) := [("background", .background), ("foreground", .foreground)]

/-- A layer's name at the start of a sentence. -/
def Layer.title : Layer → String
  | background => "Background"
  | foreground => "Foreground"

/-- A colour on one layer. -/
def Layer.colored (color : String) : Layer → Colors
  | background => { background := some color }
  | foreground => { foreground := some color }

/-- Prints its arguments. -/
def echoCommand : Command where
  name := "echo"
  action := fun args => .writeLine (" ".intercalate args) .done
  description := .string "Print the arguments back"
  usage := .string "echo <text...>"

/-- Greets. -/
def greetCommand : Command where
  name := "greet"
  action := fun args =>
    let name := args.headD ""
    .writeLine s!"Hello, {name}!" .done
  description := .string "Greet someone by name"
  usage := .string "greet <name>"
  validator := some oneArgument

/-- The layer and the colour that two arguments name, in any case. -/
def pick? : List String → Option (Layer × String)
  | [layer, color] => do
    let l ← layers.lookup (lowerCase layer)
    if lowerCase color ∈ colorNames then some (l, lowerCase color) else none
  | _ => none

/-- Offers layers, then colours. -/
def completeColor (r : CompletionRequest) : Except Stop Value :=
  let pool := if r.position = 1 then layers.map (·.1) else if r.position = 2 then colorNames else []
  .ok (.list ((matching r.partialArg pool).map .string))

/-- Picks a colour for a layer. -/
def colorCommand : Command where
  name := "color"
  action := fun args =>
    match pick? args with
    | some (l, color) => .paint (l.colored color) (.writeLine s!"{l.title} color set to {color}." .done)
    | none => .done
  description := .string "Pick a console color"
  usage := .string "color <background|foreground> <color>"
  validator := some fun args => .judge args (.ok (pick? args).isSome)
  completer := some completeColor

/-- The commands on texts. -/
def textCommands : List Command := [echoCommand, greetCommand, colorCommand]

end CommandConsole.Bundled
