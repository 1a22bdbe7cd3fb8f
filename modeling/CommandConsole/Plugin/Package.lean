import CommandConsole.Plugin.Bundled
import CommandConsole.Text.Lines

/-!
# Plugin packages

A package is a folder of modules that contribute commands: one under a well-known name, several as a list, or through a hook
that works on the registry. `loadCommands` lists the modules of a package by the names of its files, in their order, imports
those that are public, and registers what they contribute. A listed name need not be one that can be imported.
-/

namespace CommandConsole

/-- What a registration hook does, step by step. -/
inductive HookStep where
  | register (candidate : Except Fault (Candidate Action))
  | unregister (name : String)
  | stop (why : Stop)

/-- What a module contributes. -/
structure Module where
  command : Option (Candidate Action) := none
  commands : List (Candidate Action) := []
  hook : List HookStep := []

/-- What a file or folder in a package is: a module, a folder that is one, a folder whose module is its entry point, a
folder that is none, or some other file. -/
inductive FileKind where
  | module
  | package
  | entrypoint
  | bare
  | other
  deriving Repr, DecidableEq

/-- A file or folder in a package; importing it gives the module or stops. -/
structure ModuleFile where
  name : String
  kind : FileKind
  contents : Except Stop Module := .ok {}

/-- What a dotted name can be imported as: a package with its files, or a plain module. Either may stop on import. -/
inductive Importable where
  | package (files : List ModuleFile) (contents : Except Stop Module := .ok {})
  | plain (contents : Except Stop Module := .ok {})

/-- The module that an import gives. -/
def Importable.contents : Importable → Except Stop Module
  | package _ contents => contents
  | plain contents => contents

/-- The dotted names that can be imported. A package is one folder here; those that are spread over several are left out. -/
abbrev World := List (String × Importable)

namespace ModuleFile

/-- The name of the module that stands for a folder as a whole. -/
def folderModule : String := "__init__"

/-- The endings of file names that mark a module; of two that fit, the first one does. The ending that the platform has for
extensions of its own, which would come before these, is left out. -/
def endings : List String := [".abi3.so", ".pyc", ".so", ".py"]

/-- The name of the file or folder itself. -/
def fileName (f : ModuleFile) : String :=
  match f.kind with
  | .module => f.name ++ ".py"
  | _ => f.name

/-- A name without an ending. -/
def dropEnding? (name ending : String) : Option String :=
  if name.endsWith ending then some (String.ofList (name.toList.take (name.length - ending.length))) else none

/-- The name under which a file or folder is listed as a module: its own without the ending that marks a module. A folder
without an ending is listed if it is a module. No such name is empty or has a dot. -/
def listed? (f : ModuleFile) : Option String :=
  let found := match endings.findSome? (dropEnding? f.fileName) with
    | some stem => some stem
    | none => if f.kind = FileKind.package ∨ f.kind = FileKind.entrypoint then some f.name else none
  found.filter fun name => !name.isEmpty && !name.toList.contains '.'

/-- The name under which a file that is listed under a name is imported, in a package. -/
def target (f : ModuleFile) (package listedAs : String) : String :=
  let name := s!"{package}.{listedAs}"
  if f.kind = .entrypoint ∧ f.name = listedAs then s!"{name}.entrypoint" else name

end ModuleFile

namespace World

/-- The dotted names that a name runs through: `a`, `a.b`, `a.b.c`. -/
def stages (name : String) : List String :=
  let parts := piecesAt '.' name.toList
  (List.range parts.length).map fun n => String.ofList (['.'].intercalate (parts.take (n + 1)))

/-- The fault of a name that cannot be imported. -/
def missing (name : String) : Fault := ⟨.missingModule, s!"No module named {quote name}"⟩

/-- The fault of a stage that is not there; `parent` is the stage before. -/
def missingStage (parent : Option (String × Importable)) (stage : String) : Fault :=
  match parent with
  | some (name, .plain _) => ⟨.missingModule, s!"No module named {quote stage}; {quote name} is not a package"⟩
  | _ => missing stage

/-- Imports the stages of a name one by one; `parent` is the stage before. -/
def importStages (w : World) (parent : Option (String × Importable)) : List String → Except Stop (Option Importable)
  | [] => .ok (parent.map (·.2))
  | stage :: rest =>
    match w.lookup stage with
    | none => .error (.fault (missingStage parent stage))
    | some found =>
      match found.contents with
      | .error why => .error why
      | .ok _ => importStages w (some (stage, found)) rest

/-- Imports a dotted name. -/
def find (w : World) (name : String) : Except Stop (Option Importable) :=
  if name.isEmpty then .error (.fault (.badValue "Empty module name"))
  else if name.startsWith "." then
    .error (.fault (.badType
      s!"the 'package' argument is required to perform a relative import for {quote name}"))
  else w.importStages none (stages name)

/-- The module that a dotted name is imported as. -/
def moduleAt (w : World) (name : String) : Except Stop Module := do
  match ← w.find name with
  | some found => found.contents
  | none => throw (.fault (missing name))

end World

namespace Registry

/-- Registers the commands among some candidates and counts them. -/
def registerCommands (r : Registry) : List (Candidate Action) → Registry × List LogRecord × Nat
  | [] => (r, [], 0)
  | .value _ :: rest => r.registerCommands rest
  | .command c :: rest =>
    let (r', notes, n) := (r.insert c).registerCommands rest
    (r', r.replacementNotes c.key ++ notes, n + 1)

/-- Runs the steps of a hook. -/
def runHook (r : Registry) : List HookStep → Step Registry Unit
  | [] => ⟨r, [], .ok ()⟩
  | .stop why :: _ => ⟨r, [], .error why⟩
  | .unregister name :: rest => (r.unregister name).1.runHook rest
  | .register (.error f) :: _ => ⟨r, [], .error (.fault f)⟩
  | .register (.ok candidate) :: rest =>
    let step := r.register candidate
    match step.result with
    | .error why => ⟨step.state, step.notes, .error why⟩
    | .ok _ =>
      let after := step.state.runHook rest
      { after with notes := step.notes ++ after.notes }

/-- Registers what a module contributes. The hook counts for as many commands as the registry has grown by. -/
def loadModule (r : Registry) (name : String) (m : Module) : Step Registry Unit :=
  let (r, notes, count) := r.registerCommands (m.command.toList ++ m.commands)
  let step := r.runHook m.hook
  match step.result with
  | .error why => ⟨step.state, notes ++ step.notes, .error why⟩
  | .ok () =>
    let loaded := count + (step.state.entries.length - r.entries.length)
    let told : LogRecord := ⟨.debug, Channel.loader, s!"Loaded {loaded} command(s) from {name}", none⟩
    ⟨step.state, notes ++ step.notes ++ [told], .ok ()⟩

/-- Loads modules by their dotted names, one by one, and counts them. -/
def loadModules (r : Registry) (w : World) : List String → Step Registry Nat
  | [] => ⟨r, [], .ok 0⟩
  | name :: rest =>
    match w.moduleAt name with
    | .error why => ⟨r, [], .error why⟩
    | .ok m =>
      let step := r.loadModule name m
      match step.result with
      | .error why => ⟨step.state, step.notes, .error why⟩
      | .ok () =>
        let after := step.state.loadModules w rest
        { after with notes := step.notes ++ after.notes, result := after.result.map (· + 1) }

/-- The dotted names of the public modules of a package, in the order of their file names. Each name is listed once; those
that begin with an underscore are not public. -/
def publicModules (package : String) (files : List ModuleFile) : List String :=
  let sorted := files.mergeSort fun a b => a.fileName ≤ b.fileName
  let found := sorted.filterMap fun f => f.listed?.map fun name => (name, f.target package name)
  let once := found.foldl (fun kept f => if kept.any (·.1 = f.1) then kept else kept ++ [f]) []
  (once.filter fun (name, _) => !name.startsWith "_").map (·.2)

/-- Loads the commands of a package and gives the number of modules. -/
def loadCommands (r : Registry) (w : World) (package : String) : Step Registry Nat :=
  match w.find package with
  | .error why => ⟨r, [], .error why⟩
  | .ok (some (.package files _)) => r.loadModules w (publicModules package files)
  | .ok _ =>
    ⟨r, [], .error (.fault (.badState s!"'{package}' must be a package (folder) with modules."))⟩

end Registry

namespace World

/-- Modules without commands, as the files of a package. -/
def silent (kind : FileKind) (names : List String) : List ModuleFile := names.map fun name => { name, kind }

/-- The bundled package. -/
def bundled : List ModuleFile :=
  [{ name := "session", kind := .module, contents := .ok { commands := Bundled.sessionCommands.map .command } },
   { name := "text", kind := .module,
     contents := .ok { hook := Bundled.textCommands.map fun c => .register (.ok (.command c)) } }]

/-- The packages of the console itself. -/
def consolePackages : List (String × List ModuleFile) :=
  [("termcore", silent .package ["boot", "commands", "db", "interface", "plugins", "ui"]),
   ("termcore.boot", silent .module ["boot"]),
   ("termcore.commands", silent .module ["command_types", "commands"]),
   ("termcore.db", silent .module ["config", "storage"]),
   ("termcore.interface",
     silent .module ["builtins", "cli", "completion", "handler", "history", "loader", "parser", "surface"]),
   ("termcore.plugins", bundled),
   ("termcore.ui", silent .module ["ansi", "console", "logging"])]

/-- A dotted name as a package, with the module that stands for its folder. -/
def ofFolder (name : String) (files : List ModuleFile) (contents : Except Stop Module) : World :=
  [(name, .package files contents), (s!"{name}.{ModuleFile.folderModule}", .plain contents)]

/-- The names that a file of a package makes importable; a name with a dot cannot be imported. -/
def ofFile (package : String) (f : ModuleFile) : World :=
  let inner := s!"{package}.{f.name}"
  if f.name.toList.contains '.' then []
  else
    match f.kind with
    | .module => [(inner, .plain f.contents)]
    | .package => ofFolder inner [] f.contents
    | .entrypoint =>
      ofFolder inner [{ f with name := "entrypoint", kind := .module }] (.ok {})
        ++ [(s!"{inner}.entrypoint", .plain f.contents)]
    | .bare => [(inner, .package [])]
    | .other => []

/-- The module that stands for a folder: the file of that name, or an empty one. -/
def folderContents (files : List ModuleFile) : Except Stop Module :=
  match files.find? fun f => f.kind = .module && f.name = ModuleFile.folderModule with
  | some f => f.contents
  | none => .ok {}

/-- The names that a package makes importable: its own and those of its files. Of files with the same name a folder that is
a module counts before a plain module, and that before any other folder. -/
def ofPackage (name : String) (files : List ModuleFile) : World :=
  let folders := files.filter fun f => f.kind = .package || f.kind = .entrypoint
  let modules := files.filter fun f => f.kind = .module
  let others := files.filter fun f => f.kind = .bare
  ofFolder name files (folderContents files) ++ (folders ++ modules ++ others).flatMap (ofFile name)

/-- The importable names of the console itself. -/
def console : World :=
  ("termcore.__main__", .plain) :: consolePackages.flatMap fun (name, files) =>
    ofFolder name files (.ok {}) ++ (files.filter (·.kind = .module)).flatMap (ofFile name)

end World

end CommandConsole
