import CommandConsole.Text.Lines
import CommandConsole.Text.LowerCase

/-!
# Sectioned files

A sectioned file has headers in brackets and, below them, options with values; a line that is indented deeper than the option
continues its value. Comment lines begin with a number sign or a semicolon. The section `DEFAULT` supplies options to all
others. A section or an option that appears twice, a line that is neither, and an option outside a section make the whole
file invalid.
-/

namespace CommandConsole.Ini

/-- Options and their values, a line of the value each. -/
abbrev Options := List (String × List String)

/-- Where options are being collected. -/
inductive Place where
  | defaults
  | section (name : String)
  deriving Repr, DecidableEq

/-- A file as far as it has been read. -/
structure Reading where
  defaults : Options := []
  sections : List (String × Options) := []
  place : Option Place := none
  /-- The option whose value may be continued. -/
  option : Option String := none
  indent : Nat := 0
  /-- The options that have appeared, with their places. -/
  seen : List (Place × String) := []
  /-- Some line was neither a header nor an option. -/
  faulty : Bool := false

/-- Changes the value of a key, or adds the key with a value. -/
def alter {α : Type} (key : String) (f : Option α → α) : List (String × α) → List (String × α)
  | [] => [(key, f none)]
  | (k, a) :: rest => if k = key then (k, f (some a)) :: rest else (k, a) :: alter key f rest

namespace Reading

/-- Changes the options of a place. -/
def alterOptions (r : Reading) (p : Place) (f : Options → Options) : Reading :=
  match p with
  | .defaults => { r with defaults := f r.defaults }
  | .section name => { r with sections := alter name (fun o => f (o.getD [])) r.sections }

/-- Adds a line to the value of the option that is being read. -/
def continueValue (r : Reading) (line : String) : Reading :=
  match r.place, r.option with
  | some p, some o => r.alterOptions p (alter o fun lines => lines.getD [] ++ [line])
  | _, _ => r

/-- Opens a section. -/
def openSection (r : Reading) (name : String) : Option Reading :=
  if name = "DEFAULT" then some { r with place := some .defaults, option := none }
  else if r.sections.any (·.1 = name) then none
  else some { r with sections := r.sections ++ [(name, [])], place := some (.section name), option := none }

/-- Adds an option to the section that is being read. -/
def addOption (r : Reading) (p : Place) (name value : String) : Option Reading :=
  if (p, name) ∈ r.seen then none
  else
    some { r.alterOptions p (alter name fun _ => [value]) with
      option := if name.isEmpty then none else some name
      seen := (p, name) :: r.seen
      faulty := r.faulty || name.isEmpty }

end Reading

/-- The name of a section header: everything between the first and the last bracket. -/
def header? : List Char → Option String
  | '[' :: cs =>
    match cs.reverse.dropWhile (· ≠ ']') with
    | _ :: (c :: name) => some (String.ofList (c :: name).reverse)
    | _ => none
  | _ => none

/-- The option of a line, in lower case, and its value: an equals sign or a colon comes between them. -/
def option? (line : List Char) : Option (String × String) :=
  let isDelimiter (c : Char) : Bool := c = '=' || c = ':'
  match line.dropWhile (! isDelimiter ·) with
  | [] => none
  | _ :: value =>
    some (lowerCase (String.ofList (stripBlanks (line.takeWhile (! isDelimiter ·)))), String.ofList (stripBlanks value))

/-- Reads a line that is a header or an option. -/
def readElement (r : Reading) (line : List Char) : Option Reading :=
  match header? line with
  | some name => r.openSection name
  | none =>
    match r.place with
    | none => none
    | some p =>
      match option? line with
      | some (name, value) => r.addOption p name value
      | none => some { r with faulty := true }

/-- Reads a line. -/
def readLine (r : Reading) (line : List Char) : Option Reading :=
  match stripBlanks line with
  | [] => some (r.continueValue "")
  | c :: cs =>
    if c = '#' ∨ c = ';' then some r
    else
      let indent := (line.takeWhile isBlank).length
      if r.option.isSome ∧ r.indent < indent then some (r.continueValue (String.ofList (c :: cs)))
      else readElement { r with indent } (c :: cs)

/-- The value that lines make up: blanks at the end are dropped. -/
def joinLines (lines : List String) : String :=
  String.ofList ((("\n".intercalate lines).toList.reverse.dropWhile isBlank).reverse)

/-- A sectioned file: the options of each section, and those that all sections have by default. -/
structure Document where
  defaults : List (String × String)
  sections : List (String × List (String × String))
  deriving Repr

/-- Options with their values joined. -/
def Options.joined (o : Options) : List (String × String) := o.map fun (name, lines) => (name, joinLines lines)

/-- The lines of a file, which end with line feeds only; the rest after the last one counts unless it is empty. -/
def fileLines (file : List Char) : List (List Char) :=
  let pieces := piecesAt '\n' file
  if pieces.getLast? = some [] then pieces.dropLast else pieces

/-- Reads a sectioned file. -/
def parse (file : List Char) : Option Document := do
  let r ← (fileLines file).foldlM readLine {}
  if r.faulty then none
  else
    some ⟨Options.joined r.defaults, r.sections.map fun (name, o) => (name, Options.joined o)⟩

/-- The options that a section has, its own and the defaults; its own values count. -/
def Document.options (d : Document) (own : List (String × String)) : List (String × String) :=
  own.foldl (fun all (name, value) => alter name (fun _ => value) all) d.defaults

/-- The options of all sections, one section after the other. -/
def Document.entries (d : Document) : List (String × String) := d.sections.flatMap fun (_, own) => d.options own

end CommandConsole.Ini
