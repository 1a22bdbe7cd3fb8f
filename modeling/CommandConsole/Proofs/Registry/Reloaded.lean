import Mathlib.Data.List.Basic
import CommandConsole.Plugin.Package
import CommandConsole.Proofs.Registry.Slots

/-!
# Loading a package again

Loading a package registers what its public modules contribute, one command after the other, so what a load does to a
registry is `Registry.insertAll` of a list of commands (`loadCommands_registers`). Registering such a list again moves
no slot, and each slot ends with the last command of its key, as it did before (`insertAll_insertAll`). Hence a package
can be loaded again without any effect (`loaded_again`).
-/

namespace CommandConsole

/-! ## Imports -/

namespace World

/-- A dotted name is imported stage by stage. -/
theorem find_eq (w : World) (name : String) (names : List String)
    (hname : name.isEmpty = false ∧ name.startsWith "." = false) (hstages : stages name = names) :
    w.find name = w.importStages none names := by
  simp only [find, hname, hstages, Bool.false_eq_true, if_false]

/-- A stage that can be imported comes before the others. -/
theorem importStages_cons {w : World} {stage : String} {found : Importable} {m : Module}
    (hfound : w.lookup stage = some found) (hcontents : found.contents = .ok m)
    (parent : Option (String × Importable)) (rest : List String) :
    w.importStages parent (stage :: rest) = w.importStages (some (stage, found)) rest := by
  simp only [importStages, hfound, hcontents]

/-- The module of a name under which a module is found. -/
theorem moduleAt_of_find {w : World} {name : String} {contents : Except Stop Module}
    (h : w.find name = .ok (some (.plain contents))) : w.moduleAt name = contents := by
  rw [moduleAt, h]
  rfl

end World

/-! ## What modules contribute -/

/-- The command that a candidate is, if it is one. -/
def Candidate.command? : Candidate Action → Option Command
  | .command c => some c
  | .value _ => none

/-- The command that a step of a hook registers. -/
def HookStep.registers? : HookStep → Option Command
  | .register (.ok (.command c)) => some c
  | _ => none

namespace Module

/-- The commands that a module contributes, in the order of their registration. -/
def contributed (m : Module) : List Command :=
  (m.command.toList ++ m.commands).filterMap Candidate.command? ++ m.hook.filterMap HookStep.registers?

/-- The hook of a module does nothing but register commands. -/
def OnlyRegisters (m : Module) : Prop := ∀ step ∈ m.hook, ∃ c, step = .register (.ok (.command c))

end Module

/-- The commands that modules contribute, one module after the other. -/
def World.contributed (w : World) (names : List String) : List Command :=
  names.flatMap fun name =>
    match w.moduleAt name with
    | .ok m => m.contributed
    | .error _ => []

/-- One module in front of others. -/
theorem World.contributed_cons {w : World} {name : String} {m : Module} (hm : w.moduleAt name = .ok m)
    (rest : List String) : w.contributed (name :: rest) = m.contributed ++ w.contributed rest := by
  simp only [contributed, List.flatMap_cons, hm]

namespace Registry

/-! ## Registering many commands -/

/-- Registers commands, one after the other. -/
def insertAll (r : Registry) (cs : List Command) : Registry := cs.foldl insert r

/-- Many commands and one more. -/
theorem insertAll_concat (r : Registry) (cs : List Command) (c : Command) :
    r.insertAll (cs ++ [c]) = (r.insertAll cs).insert c := List.foldl_concat ..

/-- Many commands and many more. -/
theorem insertAll_append (r : Registry) (cs more : List Command) :
    r.insertAll (cs ++ more) = (r.insertAll cs).insertAll more := List.foldl_append

/-- Registering a command keeps the names there are in front. -/
theorem names_prefix_insert (r : Registry) (c : Command) : r.names <+: (r.insert c).names := by
  rw [names_insert]
  split
  · exact List.prefix_rfl
  · exact List.prefix_append _ _

/-- A command that is registered has a name in the registry. -/
theorem key_mem_names_insert (r : Registry) (c : Command) : c.key ∈ (r.insert c).names := by
  rw [names_insert]
  split
  · assumption
  · exact List.mem_append_right _ (List.mem_singleton_self _)

/-- Registering many commands keeps the names there are in front. -/
theorem names_prefix_insertAll (r : Registry) (cs : List Command) : r.names <+: (r.insertAll cs).names := by
  induction cs generalizing r with
  | nil => exact List.prefix_rfl
  | cons c cs ih => exact (names_prefix_insert r c).trans (ih (r.insert c))

/-- All commands that are registered have names in the registry. -/
theorem key_mem_names_insertAll (r : Registry) {cs : List Command} {c : Command} (hc : c ∈ cs) :
    c.key ∈ (r.insertAll cs).names := by
  induction cs generalizing r with
  | nil => cases hc
  | cons d cs ih =>
    rcases List.mem_cons.mp hc with rfl | hc
    · exact (names_prefix_insertAll (r.insert c) cs).subset (key_mem_names_insert r c)
    · exact ih (r.insert d) hc

/-- Under each key is the last command of that key, or what was there before. -/
theorem command?_insertAll (r : Registry) (cs : List Command) (key : String) :
    (r.insertAll cs).command? key = ((cs.filter (·.key = key)).getLast?).or (r.command? key) := by
  induction cs using List.reverseRecOn with
  | nil => rfl
  | append_singleton cs c ih =>
    rw [insertAll_concat, command?_insert, ih, List.filter_append]
    split
    · rename_i hkey
      simp [hkey]
    · rename_i hkey
      simp [hkey]

/-! ## Registering them again -/

/-- Of two entries with one key, put in one after the other, the second one stays. -/
theorem put_put_same {e e' : Entry} (hkey : e'.key = e.key) (xs : List Entry) : put e (put e' xs) = put e xs := by
  induction xs with
  | nil => simp [put, hkey]
  | cons x xs ih =>
    by_cases hx : x.key = e.key
    · simp [put, hkey, hx]
    · simp [put, hkey, hx, ih]

/-- Two entries with different keys can be put in either way round, if there is a place for the one already. -/
theorem put_put_comm {e e' : Entry} (hkey : e'.key ≠ e.key) {xs : List Entry} (hplace : e'.key ∈ xs.map (·.key)) :
    put e (put e' xs) = put e' (put e xs) := by
  induction xs with
  | nil => cases hplace
  | cons x xs ih =>
    by_cases hx' : x.key = e'.key
    · simp [put, hx', hkey]
    · have hrest : e'.key ∈ xs.map (·.key) := by
        rcases List.mem_cons.mp hplace with h | h
        · exact absurd h.symm hx'
        · exact h
      by_cases hx : x.key = e.key
      · simp [put, hx, Ne.symm hkey]
      · simp [put, hx, hx', ih hrest]

/-- A command that is registered at the end need not have been registered first, before others that have places. -/
theorem insert_insertAll_insert {r : Registry} {cs : List Command} (hplaces : ∀ d ∈ cs, d.key ∈ r.names) (c : Command) :
    ((r.insert c).insertAll cs).insert c = (r.insertAll cs).insert c := by
  induction cs generalizing r with
  | nil => exact congrArg Registry.mk (put_put_same rfl r.entries)
  | cons d cs ih =>
    have hd : d.key ∈ r.names := hplaces d List.mem_cons_self
    have hrest : ∀ d' ∈ cs, d'.key ∈ (r.insert d).names := fun d' hd' =>
      (names_prefix_insert r d).subset (hplaces d' (List.mem_cons_of_mem _ hd'))
    show (((r.insert c).insert d).insertAll cs).insert c = ((r.insert d).insertAll cs).insert c
    by_cases hkey : c.key = d.key
    · have hover : (r.insert c).insert d = r.insert d := congrArg Registry.mk (put_put_same hkey r.entries)
      rw [hover]
    · have hswap : (r.insert c).insert d = (r.insert d).insert c :=
        congrArg Registry.mk (put_put_comm (Ne.symm hkey) hd).symm
      rw [hswap, ih hrest]

/-- Registering the same commands again changes nothing. -/
theorem insertAll_insertAll (r : Registry) (cs : List Command) : (r.insertAll cs).insertAll cs = r.insertAll cs := by
  -- from the last command on, which has the last word on its key in both rounds
  induction cs using List.reverseRecOn with
  | nil => rfl
  | append_singleton cs c ih =>
    rw [insertAll_concat, insertAll_concat, insert_insertAll_insert (fun d hd => key_mem_names_insertAll r hd) c, ih]

/-! ## Loading -/

/-- Registering candidates registers the commands among them. -/
theorem registerCommands_fst (r : Registry) (candidates : List (Candidate Action)) :
    (r.registerCommands candidates).1 = r.insertAll (candidates.filterMap Candidate.command?) := by
  induction candidates generalizing r with
  | nil => rfl
  | cons candidate rest ih =>
    cases candidate with
    | command c => exact ih (r.insert c)
    | value v => exact ih r

/-- A hook that only registers comes to its end and has registered all its commands. -/
theorem runHook_registers {hook : List HookStep} (h : ∀ step ∈ hook, ∃ c, step = .register (.ok (.command c)))
    (r : Registry) :
    (r.runHook hook).result = .ok () ∧ (r.runHook hook).state = r.insertAll (hook.filterMap HookStep.registers?) := by
  induction hook generalizing r with
  | nil => exact ⟨rfl, rfl⟩
  | cons step rest ih =>
    obtain ⟨c, rfl⟩ := h step List.mem_cons_self
    exact ih (fun step hstep => h step (List.mem_cons_of_mem _ hstep)) (r.insert c)

/-- Loading a module registers what it contributes. -/
theorem loadModule_registers {m : Module} (h : m.OnlyRegisters) (r : Registry) (name : String) :
    (r.loadModule name m).result = .ok () ∧ (r.loadModule name m).state = r.insertAll m.contributed := by
  obtain ⟨hresult, hstate⟩ := runHook_registers h (r.registerCommands (m.command.toList ++ m.commands)).1
  have hcontributed : ((r.registerCommands (m.command.toList ++ m.commands)).1.runHook m.hook).state =
      r.insertAll m.contributed := by
    rw [hstate, registerCommands_fst, ← insertAll_append]
    rfl
  unfold loadModule
  simp only [hresult]
  exact ⟨trivial, hcontributed⟩

/-- Loading modules registers what they contribute, and counts the modules. -/
theorem loadModules_registers {w : World} {names : List String}
    (h : ∀ name ∈ names, ∃ m, w.moduleAt name = .ok m ∧ m.OnlyRegisters) (r : Registry) :
    (r.loadModules w names).result = .ok names.length ∧
      (r.loadModules w names).state = r.insertAll (w.contributed names) := by
  induction names generalizing r with
  | nil => exact ⟨rfl, rfl⟩
  | cons name rest ih =>
    obtain ⟨m, hm, honly⟩ := h name List.mem_cons_self
    obtain ⟨hresult, hstate⟩ := loadModule_registers honly r name
    obtain ⟨hlater, hafter⟩ := ih (fun name hname => h name (List.mem_cons_of_mem _ hname)) (r.loadModule name m).state
    simp only [loadModules, hm, hresult, hlater, hafter]
    exact ⟨rfl, by rw [hstate, World.contributed_cons hm, insertAll_append]⟩

/-- Loading a package registers what its public modules contribute, and counts them. -/
theorem loadCommands_registers {w : World} {package : String} {files : List ModuleFile} {contents : Except Stop Module}
    (hfound : w.find package = .ok (some (.package files contents)))
    (hpublic : ∀ name ∈ publicModules package files, ∃ m, w.moduleAt name = .ok m ∧ m.OnlyRegisters) (r : Registry) :
    (r.loadCommands w package).result = .ok (publicModules package files).length ∧
      (r.loadCommands w package).state = r.insertAll (w.contributed (publicModules package files)) := by
  rw [loadCommands, hfound]
  exact loadModules_registers hpublic r

/-- **Loading again.** A package whose public modules can be imported and whose hooks only register gives the same
number of modules each time it is loaded, and a second load leaves the registry as the first one left it: the same names
in the same order, each with the same command. Names that were there before stay in front, in their order. Under each
name, in any case, is what was contributed last under it, or, if no module contributes anything under it, what was there
before. -/
theorem loaded_again (r : Registry) {w : World} {package : String} {files : List ModuleFile}
    {contents : Except Stop Module} (hfound : w.find package = .ok (some (.package files contents)))
    (hpublic : ∀ name ∈ publicModules package files, ∃ m, w.moduleAt name = .ok m ∧ m.OnlyRegisters) :
    let modules := publicModules package files
    let commands := w.contributed modules
    let once := r.loadCommands w package
    let again := once.state.loadCommands w package
    once.result = .ok modules.length ∧ again.result = once.result ∧ again.state = once.state ∧
      r.names <+: once.state.names ∧
      (∀ name, (∀ c ∈ commands, c.key ≠ lowerCase name) → once.state.lookup name = r.lookup name) ∧
      ∀ name, once.state.lookup name = ((commands.filter (·.key = lowerCase name)).getLast?).or (r.lookup name) := by
  intro modules commands once again
  obtain ⟨hresult, hstate⟩ : once.result = .ok modules.length ∧ once.state = r.insertAll commands :=
    loadCommands_registers hfound hpublic r
  obtain ⟨hresult', hstate'⟩ : again.result = .ok modules.length ∧ again.state = once.state.insertAll commands :=
    loadCommands_registers hfound hpublic once.state
  have hlookup : ∀ name, once.state.lookup name =
      ((commands.filter (·.key = lowerCase name)).getLast?).or (r.lookup name) := by
    intro name
    rw [hstate]
    exact command?_insertAll r commands (lowerCase name)
  refine ⟨hresult, hresult'.trans hresult.symm, ?_, ?_, fun name hother => ?_, hlookup⟩
  · calc again.state = once.state.insertAll commands := hstate'
      _ = (r.insertAll commands).insertAll commands := by rw [hstate]
      _ = r.insertAll commands := insertAll_insertAll r commands
      _ = once.state := hstate.symm
  · rw [hstate]
    exact names_prefix_insertAll r commands
  · have hnone : commands.filter (·.key = lowerCase name) = [] := by
      simpa [List.filter_eq_nil_iff] using hother
    rw [hlookup, hnone]
    rfl

namespace TwoModules

/-- A command that does nothing. -/
def command (name : String) (usage : String := name) : Command :=
  { name, action := fun _ => .done, usage := .string usage }

/-- A module whose hook registers a name twice, in different case. -/
def first : Module where
  hook := [.register (.ok (.command (command "Look"))), .register (.ok (.command (command "look")))]

/-- A module with a name of the first one and one that it has twice itself, and a value that is no command. -/
def second : Module where
  command := some (.command (command "LOOK"))
  commands := [.command (command "load"), .value .null, .command (command "Load")]

/-- The files of the package, one of them private, which cannot be imported. -/
def files : List ModuleFile :=
  [{ name := "_c", kind := .module, contents := .error (.fault (.badState "broken")) },
   { name := "a", kind := .module, contents := .ok first }, { name := "b", kind := .module, contents := .ok second }]

/-- A registry with a command of its own and one that the package has as well. -/
def registry : Registry := ⟨[⟨"load", command "load" "before", 0⟩, ⟨"stop", command "stop", 0⟩]⟩

end TwoModules

open TwoModules in
/-- The package replaces one command and adds one, in front of which all that was there keeps its place. -/
theorem loaded_again_twoModules :
    let w := World.ofPackage "kit" files
    let once := registry.loadCommands w "kit"
    let again := once.state.loadCommands w "kit"
    (w.find "kit" = .ok (some (.package files (.ok {}))) ∧
      ∀ name ∈ publicModules "kit" files, ∃ m, w.moduleAt name = .ok m ∧ m.OnlyRegisters) ∧
    once.result = .ok 2 ∧ once.state.names = ["load", "stop", "look"] ∧
      once.state.lookup "LOAD" = some (command "Load") ∧ once.state.lookup "stop" = some (command "stop") ∧
      once.state.lookup "look" = some (command "LOOK") ∧ again.result = .ok 2 ∧ again.state = once.state := by
  intro w once again
  have hpackage : w.lookup "kit" = some (.package files (.ok {})) := by
    simp [w, World.ofPackage, World.ofFolder, World.folderContents, files, ModuleFile.folderModule]
  have hplain : w.lookup "kit.a" = some (.plain (.ok first)) ∧ w.lookup "kit.b" = some (.plain (.ok second)) := by
    simp [w, World.ofPackage, World.ofFolder, World.ofFile, files, ModuleFile.folderModule, List.lookup_cons, toString]
  have hfound : w.find "kit" = .ok (some (.package files (.ok {}))) := by
    rw [w.find_eq "kit" ["kit"] (by decide +kernel) (by decide +kernel), World.importStages_cons hpackage rfl]
    rfl
  have hfirst : w.moduleAt "kit.a" = .ok first := by
    apply World.moduleAt_of_find
    rw [w.find_eq "kit.a" ["kit", "kit.a"] (by decide +kernel) (by decide +kernel),
      World.importStages_cons hpackage rfl, World.importStages_cons hplain.1 rfl]
    rfl
  have hsecond : w.moduleAt "kit.b" = .ok second := by
    apply World.moduleAt_of_find
    rw [w.find_eq "kit.b" ["kit", "kit.b"] (by decide +kernel) (by decide +kernel),
      World.importStages_cons hpackage rfl, World.importStages_cons hplain.2 rfl]
    rfl
  have hmodules : publicModules "kit" files = ["kit.a", "kit.b"] := by
    rw [publicModules, List.mergeSort_of_pairwise (by decide +kernel)]
    decide +kernel
  have hpublic : ∀ name ∈ publicModules "kit" files, ∃ m, w.moduleAt name = .ok m ∧ m.OnlyRegisters := by
    rw [hmodules]
    rintro name (_ | ⟨_, _ | ⟨_, ⟨⟩⟩⟩)
    · refine ⟨first, hfirst, ?_⟩
      rintro step (_ | ⟨_, _ | ⟨_, ⟨⟩⟩⟩)
      · exact ⟨_, rfl⟩
      · exact ⟨_, rfl⟩
    · exact ⟨second, hsecond, List.forall_mem_nil _⟩
  have hcommands : w.contributed ["kit.a", "kit.b"] =
      [command "Look", command "look", command "LOOK", command "load", command "Load"] := by
    rw [World.contributed_cons hfirst, World.contributed_cons hsecond]
    rfl
  obtain ⟨hresult, hagain, hstate, -, -, hlookup⟩ := loaded_again registry hfound hpublic
  rw [hmodules] at hresult
  rw [hmodules, hcommands] at hlookup
  have hnames : once.state.names = ["load", "stop", "look"] := by
    rw [(loadCommands_registers hfound hpublic registry).2, hmodules, hcommands]
    decide +kernel
  exact ⟨⟨hfound, hpublic⟩, hresult, hnames, (hlookup "LOAD").trans (by rfl), (hlookup "stop").trans (by rfl),
    (hlookup "look").trans (by rfl), hagain.trans hresult, hstate⟩

end Registry

end CommandConsole
