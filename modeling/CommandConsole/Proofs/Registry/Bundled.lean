import CommandConsole.Proofs.Registry.Reloaded
import CommandConsole.Settings.Basic

/-!
# Loading the bundled package

The bundled package and its two modules can be imported under their dotted names (`find_bundled`, `moduleAt_bundled`),
so loading it into any registry registers the commands on the session and those on texts (`loadCommands_bundled`).
-/

namespace CommandConsole

namespace World

/-- The packages that the name of the bundled package runs through are there. -/
theorem lookup_bundled : (∃ files, console.lookup "termcore" = some (.package files)) ∧
    console.lookup bundledPackage = some (.package bundled) := by
  constructor
  · simp [console, consolePackages, ofFolder, List.lookup_cons]
  · simp [console, consolePackages, ofFolder, silent, ofFile, ModuleFile.folderModule, bundled, bundledPackage,
      List.lookup_cons, toString]

/-- So are its modules, under dotted names. -/
theorem lookup_bundled_module {f : ModuleFile} (hf : f ∈ bundled) :
    console.lookup s!"{bundledPackage}.{f.name}" = some (.plain f.contents) := by
  simp only [bundled, List.mem_cons, List.not_mem_nil, or_false] at hf
  rcases hf with rfl | rfl
  all_goals
    simp [console, consolePackages, ofFolder, silent, ofFile, ModuleFile.folderModule, bundled, bundledPackage,
      List.lookup_cons, toString]

/-- The bundled package can be imported. -/
theorem find_bundled : console.find bundledPackage = .ok (some (.package bundled)) := by
  obtain ⟨⟨files, hroot⟩, hpackage⟩ := lookup_bundled
  rw [console.find_eq bundledPackage ["termcore", bundledPackage] (by decide +kernel) (by decide +kernel),
    importStages_cons hroot rfl, importStages_cons hpackage rfl]
  rfl

/-- So can its modules. -/
theorem moduleAt_bundled {f : ModuleFile} (hf : f ∈ bundled) {m : Module} (hm : f.contents = .ok m) :
    console.moduleAt s!"{bundledPackage}.{f.name}" = .ok m := by
  obtain ⟨⟨files, hroot⟩, hpackage⟩ := lookup_bundled
  have hmodule := lookup_bundled_module hf
  have hname : f.name = "session" ∨ f.name = "text" := by
    simp only [bundled, List.mem_cons, List.not_mem_nil, or_false] at hf
    exact hf.imp (congrArg _) (congrArg _)
  generalize hdotted : s!"{bundledPackage}.{f.name}" = dotted at hmodule ⊢
  have hnamed : (dotted.isEmpty = false ∧ dotted.startsWith "." = false) ∧
      stages dotted = ["termcore", bundledPackage, dotted] := by
    rcases hname with hname | hname <;> rw [hname] at hdotted <;> subst hdotted <;> decide +kernel
  rw [hm] at hmodule
  apply moduleAt_of_find
  rw [console.find_eq dotted _ hnamed.1 hnamed.2, importStages_cons hroot rfl, importStages_cons hpackage rfl,
    importStages_cons hmodule rfl]
  rfl

end World

/-- Loading the bundled package loads two modules, and registers their commands. -/
theorem Registry.loadCommands_bundled (r : Registry) :
    (r.loadCommands World.console bundledPackage).result = .ok 2 ∧
      (r.loadCommands World.console bundledPackage).state =
        r.insertAll (Bundled.sessionCommands ++ Bundled.textCommands) := by
  have hmodules : publicModules bundledPackage World.bundled =
      [s!"{bundledPackage}.session", s!"{bundledPackage}.text"] := by
    rw [publicModules, List.mergeSort_of_pairwise (by decide +kernel)]
    decide +kernel
  have hsession : World.console.moduleAt s!"{bundledPackage}.session" = .ok _ :=
    World.moduleAt_bundled (f := World.bundled[0]) List.mem_cons_self rfl
  have htext : World.console.moduleAt s!"{bundledPackage}.text" = .ok _ :=
    World.moduleAt_bundled (f := World.bundled[1]) (List.mem_cons_of_mem _ List.mem_cons_self) rfl
  have hpublic : ∀ name ∈ publicModules bundledPackage World.bundled,
      ∃ m, World.console.moduleAt name = .ok m ∧ m.OnlyRegisters := by
    rw [hmodules, List.forall_mem_cons, List.forall_mem_cons]
    refine ⟨⟨_, hsession, List.forall_mem_nil _⟩, ⟨_, htext, fun step hstep => ?_⟩, List.forall_mem_nil _⟩
    obtain ⟨c, -, rfl⟩ := List.mem_map.mp hstep
    exact ⟨c, rfl⟩
  have hcontributed : World.console.contributed (publicModules bundledPackage World.bundled) =
      Bundled.sessionCommands ++ Bundled.textCommands := by
    rw [hmodules, World.contributed_cons hsession, World.contributed_cons htext]
    rfl
  obtain ⟨hresult, hstate⟩ := loadCommands_registers World.find_bundled hpublic r
  rw [hcontributed] at hstate
  rw [hmodules] at hresult
  exact ⟨hresult, hstate⟩

end CommandConsole
