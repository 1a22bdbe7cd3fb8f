import Mathlib.Data.List.Basic
import CommandConsole.Proofs.Boot.Told
import CommandConsole.Proofs.Session.Course

/-!
# What a boot reports

A boot stops at its first step that fails and reports it once, behind the steps that have passed if the report is to be
verbose; and a boot whose steps pass has started a session and loaded commands exactly if a package is configured
(`BootPlan.Ready`). `boot_reported` says so of whatever the steps do, and what the program makes of it. Lines are printed as
others are: off a terminal, an escape sequence in a label is left out (`escape_in_label_unprinted`).
-/

namespace CommandConsole

open Booting BootPlan

/-! ## Stages -/

namespace Booting

variable {α β : Type}

/-- Works that come to a result come to it one after the other. -/
theorem ok_of_bind {work : Booting α} {next : α → Booting β} {b left : Boot} {result : β}
    (h : (work >>= next).go b = (.ok result, left)) :
    ∃ a between, work.go b = (.ok a, between) ∧ (next a).go between = (.ok result, left) := by
  rw [go_bind] at h
  rcases hwork : work.go b with ⟨why | a, between⟩
  · rw [hwork] at h
    cases h
  · rw [hwork] at h
    exact ⟨a, between, rfl, h⟩

/-- A work whose result is only changed comes to the same end. -/
theorem ok_of_map {work : Booting α} {f : α → β} {b left : Boot} {result : β}
    (h : (do return f (← work) : Booting β).go b = (.ok result, left)) :
    ∃ a, work.go b = (.ok a, left) ∧ result = f a := by
  obtain ⟨a, between, hwork, hresult⟩ := ok_of_bind h
  cases hresult
  exact ⟨a, hwork, rfl⟩

end Booting

namespace BootPlan

/-- The labels of the tasks of a boot, but for the last one. -/
def labels (plan : BootPlan) (settings : Settings) : List String :=
  [s!"Detect environment: {plan.platform}", "Initialize logger",
    s!"Open history storage ({place settings})"] ++
  (if plan.hasFrontend then [] else ["Select frontend"]) ++ ["Build interpreter"] ++
  settings.pluginPackage.toList.map fun package => s!"Load commands from '{package}'"

/-- A boot is ready but for its last line: a session was started, and then the configured package was loaded, if there
is one. -/
inductive Ready (plan : BootPlan) (settings : Settings) : Nat → Boot → Prop where
  | unloaded {storage : Storage} {opened started : Boot} (hpackage : settings.pluginPackage = none)
      (hstarts : (plan.startSession settings storage).go opened = (.ok (), started)) :
      Ready plan settings 0 (started.pass settings.showsBootSteps "Build interpreter").noteRestored
  | loaded {storage : Storage} {opened started left : Boot} {package : String} {n : Nat}
      (hpackage : settings.pluginPackage = some package)
      (hstarts : (plan.startSession settings storage).go opened = (.ok (), started))
      (hloads : (plan.loadPackage package).go
        (started.pass settings.showsBootSteps "Build interpreter").noteRestored = (.ok n, left)) :
      Ready plan settings n (left.pass settings.showsBootSteps s!"Load commands from '{package}'")

/-- The tasks before the session do not look at the state for their labels, and load nothing. -/
theorem opening_keeps (plan : BootPlan) (settings : Settings) :
    ∀ t ∈ plan.opening settings, (∀ b b', t.label b = t.label b') ∧
      ∀ p b p' left, (t.work p).go b = (.ok p', left) → p'.loaded = p.loaded := by
  -- a work that only passes on what has been settled
  have hkeeps : ∀ {α : Type} (work : Booting α) {f : α → Progress} {n : Nat}, (∀ a, (f a).loaded = n) →
      ∀ b p' left, (do return f (← work) : Booting Progress).go b = (.ok p', left) → p'.loaded = n := by
    intro α work f n hf b p' left h
    obtain ⟨a, -, rfl⟩ := ok_of_map h
    exact hf a
  intro t ht
  simp only [opening, List.mem_append, List.mem_cons, List.not_mem_nil, or_false] at ht
  rcases ht with (rfl | rfl | rfl) | ht
  · refine ⟨fun _ _ => rfl, fun p b p' left h => ?_⟩
    cases h
    rfl
  · exact ⟨fun _ _ => rfl, fun p => hkeeps (plan.openLog settings) fun _ => rfl⟩
  · exact ⟨fun _ _ => rfl, fun p => hkeeps (plan.openStorage settings) fun _ => rfl⟩
  · split at ht
    · cases ht
    · rw [List.mem_singleton.mp ht]
      exact ⟨fun _ _ => rfl, fun p => hkeeps plan.selectFrontend fun _ => rfl⟩

end BootPlan

namespace Passes

variable {plan : BootPlan} {verbose : Bool} {settings : Settings} {t : Task} {ts : List Task} {p p' : Progress}
  {b b' : Boot} {labels : List String}

/-- A single task that passes leaves what it did, its line and its note. -/
theorem singleton (h : Passes verbose [t] p b labels p' b') :
    ∃ left, (t.work p).go b = (.ok p', left) ∧ labels = [t.label b] ∧ b' = t.note (left.pass verbose (t.label b)) := by
  cases h with
  | next hwork hrest =>
    cases hrest
    exact ⟨_, hwork, rfl, rfl⟩

/-- Tasks that load nothing leave the number of modules. -/
theorem loaded_eq (h : Passes verbose ts p b labels p' b')
    (hkeeps : ∀ t ∈ ts, ∀ p b p' left, (t.work p).go b = (.ok p', left) → p'.loaded = p.loaded) :
    p'.loaded = p.loaded := by
  induction h with
  | none p b => rfl
  | next hwork hrest ih =>
    rw [List.forall_mem_cons] at hkeeps
    rw [ih hkeeps.2, hkeeps.1 _ _ _ _ hwork]

/-- Where all tasks pass, the boot was ready before the last one, and the labels are known. -/
theorem ready (h : Passes settings.showsBootSteps (plan.tasks settings) {} b labels p' b') :
    ∃ before, plan.Ready settings p'.loaded before ∧
      labels = plan.labels settings ++ [completion.label before] ∧
      b' = before.pass settings.showsBootSteps (completion.label before) := by
  obtain ⟨labels₁, labels₄, p₃, before, rfl, h₁, h₄⟩ := h.split
  obtain ⟨labels₁, labels₃, p₂, built, rfl, h₁, h₃⟩ := h₁.split
  obtain ⟨labels₁, labels₂, p₁, opened, rfl, h₁, h₂⟩ := h₁.split
  have hopening := plan.opening_keeps settings
  have hnothing : p₁.loaded = 0 := h₁.loaded_eq fun t ht => (hopening t ht).2
  have hlabels := h₁.labels_eq (fun t ht => (hopening t ht).1) b
  obtain ⟨started, hbuilds, rfl, rfl⟩ := h₂.singleton
  obtain ⟨left, hcompletes, rfl, rfl⟩ := h₄.singleton
  obtain ⟨⟨⟩, hstarts, rfl⟩ := ok_of_map hbuilds
  cases hcompletes
  refine ⟨before, ?_, ?_, rfl⟩
  · cases hpackage : settings.pluginPackage with
    | none =>
      rw [hpackage] at h₃
      cases h₃
      rw [hnothing]
      exact .unloaded hpackage hstarts
    | some package =>
      rw [hpackage] at h₃
      obtain ⟨left, hpasses, rfl, rfl⟩ := h₃.singleton
      obtain ⟨n, hloads, rfl⟩ := ok_of_map hpasses
      exact .loaded hpackage hstarts hloads
  · have hloading : labels₃ = settings.pluginPackage.toList.map fun package => s!"Load commands from '{package}'" := by
      have hconst := h₃.labels_eq (fun t ht => ?_) b
      · rw [hconst, List.map_map]
        rfl
      · obtain ⟨package, -, rfl⟩ := List.mem_map.mp ht
        exact fun _ _ => rfl
    rw [hloading, hlabels, BootPlan.labels, BootPlan.opening]
    cases plan.hasFrontend <;> rfl

end Passes

/-! ## The registry -/

/-- The registry of the session, if there is one. -/
def Boot.registered (b : Boot) : Option Registry := b.frontend.session.map (·.registry)

/-- The report of a step has nothing to do with the session. -/
theorem Boot.session_pass (b : Boot) (verbose : Bool) (label : String) :
    (b.pass verbose label).frontend.session = b.frontend.session := by
  cases verbose <;> rfl

theorem Boot.registered_pass (b : Boot) (verbose : Bool) (label : String) :
    (b.pass verbose label).registered = b.registered := by
  rw [registered, session_pass, registered]

theorem Boot.commandCount_pass (b : Boot) (verbose : Bool) (label : String) :
    (b.pass verbose label).commandCount = b.commandCount := by
  rw [commandCount, session_pass, commandCount]

/-- Handing over records leaves the registry. -/
theorem Boot.registered_flush (b : Boot) : b.flush.registered = b.registered := by
  unfold flush registered
  split
  · rfl
  · rename_i s hsession
    rw [hsession]
    rfl

/-- The session of a boot starts with the default commands in its registry. -/
theorem Booting.registered_of_startSession {settings : Settings} {storage : Storage} {b left : Boot}
    (h : (startSession settings storage).go b = (.ok (), left)) : left.registered = some (Defaults.install {}) := by
  rw [startSession, go_bind, go_get] at h
  dsimp only at h
  cases hattached : b.frontend.attach storage settings with
  | error why =>
    rw [hattached] at h
    cases h
  | ok frontend =>
    rw [hattached] at h
    cases h
    simp only [Frontend.attach, bind, Except.bind, pure, Except.pure] at hattached
    split at hattached
    · cases hattached
    · rename_i s hstart
      cases hattached
      exact congrArg (fun c => some c.registry) (Session.completion_of_start hstart)

/-- The console's own boot has loaded the configured package into its registry, if there is one. -/
theorem BootSetup.registered_of_ready {setup : BootSetup} {settings : Settings} {n : Nat} {b : Boot}
    (h : setup.plan.Ready settings n b) :
    b.registered = some (match settings.pluginPackage with
      | none => Defaults.install {}
      | some package => ((Defaults.install {}).loadCommands setup.world package).state) := by
  have hbuilt : ∀ started : Boot, started.registered = some (Defaults.install {}) →
      (started.pass settings.showsBootSteps "Build interpreter").noteRestored.registered =
        some (Defaults.install {}) := by
    intro started hstarted
    show (started.pass settings.showsBootSteps "Build interpreter").flush.registered = _
    rw [Boot.registered_flush, Boot.registered_pass, hstarted]
  cases h with
  | unloaded hpackage hstarts =>
    rw [hpackage]
    exact hbuilt _ (registered_of_startSession hstarts)
  | @loaded storage opened started left package n hpackage hstarts hloads =>
    have hregistry := hbuilt _ (registered_of_startSession hstarts)
    obtain ⟨s, hsession, hs⟩ := Option.map_eq_some_iff.mp hregistry
    have hleft := congrArg Prod.snd ((go_loadPackage setup package hsession).symm.trans hloads)
    dsimp only at hleft
    rw [hpackage, Boot.registered_pass, ← hleft, Boot.registered_flush, ← hs]
    rfl

/-! ## What a boot says and leaves -/

/-- A boot whose steps pass was ready before the last one. -/
theorem BootPlan.Completes.ready {plan : BootPlan} {b booted : Boot} {r : BootResult} {labels : List String}
    (h : plan.Completes b r labels booted) :
    ∃ before, plan.Ready r.settings r.loaded before ∧
      labels = plan.labels r.settings ++ [s!"Boot complete ({booted.commandCount} commands)"] ∧
      booted.registered = before.registered := by
  cases h with
  | @mk settings configured booted labels p hsettings hpasses =>
    obtain ⟨before, hready, hlabels, rfl⟩ := hpasses.ready
    refine ⟨before, hready, ?_, before.registered_pass _ _⟩
    rw [hlabels, completion_label, Boot.commandCount_pass]

/-- **A boot stops at its first failing step and reports it once.** Whatever the steps of a boot do, as long as they do
not tell anything themselves: the boot ends with a fault only if there is a first step that fails. If the message of its
fault can be formed, the boot ends with this fault. Then the lines that it tells are those of the steps before, if the
settings were loaded and ask for them, and one line for the failing step, with its label and the kind and the message of
its fault; the boot is left as the failing step has left it, and the program ends with status one without a word to the
frontend. If all steps pass, no failure is told, but their labels are if the settings ask for them, and commands were
loaded exactly if a package is configured; the program runs the frontend, and ends with status zero when its loop has
ended. -/
theorem boot_reported (plan : BootPlan) (hquiet : plan.Quiet) (b : Boot) :
    (∀ f', (b.start plan).2 = .error (.fault f') →
        ∃ f lines label left, plan.FailsFirst b f lines label left ∧ ∀ message, f.message = .ok message → f' = f) ∧
      (∀ f lines label left message, plan.FailsFirst b f lines label left → f.message = .ok message →
        b.start plan = (left.tell (.failed label f.kind message), .error (.fault f)) ∧
          Boot.Tells (lines ++ [.failed label f.kind message]) b (b.start plan).1 ∧
          ∀ reads, b.main plan reads = (left.tell (.failed label f.kind message), .ok 1)) ∧
      (∀ r, (b.start plan).2 = .ok r ↔ ∃ labels booted, plan.Completes b r labels booted) ∧
      ∀ r labels booted, plan.Completes b r labels booted →
        b.start plan = (booted, .ok r) ∧
          Boot.Tells (reportOf r.settings.showsBootSteps labels) b booted ∧
          labels = plan.labels r.settings ++ [s!"Boot complete ({booted.commandCount} commands)"] ∧
          (r.settings.pluginPackage = none → r.loaded = 0) ∧
          (∀ package, r.settings.pluginPackage = some package →
            ∃ before after, (plan.loadPackage package).go before = (.ok r.loaded, after)) ∧
          (∀ setup : BootSetup, plan = setup.plan →
            booted.registered = some (match r.settings.pluginPackage with
              | none => Defaults.install {}
              | some package => ((Defaults.install {}).loadCommands setup.world package).state)) ∧
          ∀ reads served, booted.serve reads = (served, .ok ()) →
            b.main plan reads =
              ({ served.keepHistory r.settings.historyPath with frontend := served.frontend.stop }, .ok 0) := by
  refine ⟨fun f' => failsFirst_of_start, fun f lines label left message h hmessage => ?_,
    fun r => ⟨completes_of_start, ?_⟩, fun r labels booted h => ?_⟩
  · refine ⟨h.start_eq hmessage, ?_, fun reads => ?_⟩
    · rw [h.start_eq hmessage]
      exact h.tells hquiet message
    · rw [Boot.main, h.start_eq hmessage]
  · rintro ⟨labels, booted, h⟩
    rw [h.start_eq]
  · obtain ⟨before, hready, hlabels, hregistry⟩ := h.ready
    obtain ⟨settings, n⟩ := r
    refine ⟨h.start_eq, h.tells hquiet, hlabels, fun hpackage => ?_, fun package hpackage => ?_, ?_,
      fun reads served hserved => ?_⟩
    · cases hready with
      | unloaded => rfl
      | loaded hsome => rw [hpackage] at hsome; cases hsome
    · cases hready with
      | unloaded hnone => rw [hpackage] at hnone; cases hnone
      | loaded hsome _ hloads =>
        cases hpackage.symm.trans hsome
        exact ⟨_, _, hloads⟩
    · rintro setup rfl
      rw [hregistry]
      exact BootSetup.registered_of_ready hready
    · rw [Boot.main, h.start_eq]
      dsimp only
      rw [hserved]
      rfl

namespace MissingPackage

/-- A boot that shows its steps and keeps no history, with a package of plugins. -/
def setup (package : String) : BootSetup where
  host := { home := "/home", directory := "/work" }
  environment :=
    [("TERMCORE_SHOW_BOOT_STEPS", "Yes"), ("TERMCORE_HISTORY_DB_PATH", "none"), ("TERMCORE_PLUGIN_PACKAGE", package)]
  platform := "Lean"

/-- A console before its boot. -/
def boot : Boot := { frontend := { screen := { showsEscapes := false } }, log := {} }

/-- The lines of the steps before the package is loaded. -/
def passed : List StatusLine :=
  [.passed "Detect environment: Lean", .passed "Initialize logger", .passed "Open history storage (memory)",
    .passed "Select frontend", .passed "Build interpreter"]

end MissingPackage

open MissingPackage in
/-- A package that is not there fails the last step but one, and the line that waits is not read; without a package the
session has the default commands. -/
theorem boot_reported_missingPackage :
    ((setup "kit").plan.Quiet ∧ (setup "none").plan.Quiet) ∧
      (∃ left, (setup "kit").plan.FailsFirst boot (World.missing "kit") passed "Load commands from 'kit'" left ∧
        boot.main (setup "kit").plan [.line "help"] =
          (left.tell (.failed "Load commands from 'kit'" .missingModule "No module named 'kit'"), .ok 1)) ∧
      ∃ booted, (boot.start (setup "none").plan).1 = booted ∧ booted.registered = some (Defaults.install {}) := by
  have hkit := (setup "kit").plan_quiet
  have hnone := (setup "none").plan_quiet
  obtain ⟨hfault, hreported, -⟩ := boot_reported _ hkit boot
  obtain ⟨-, -, hcompletes, hcompleted⟩ := boot_reported _ hnone boot
  refine ⟨⟨hkit, hnone⟩, ?_, ?_⟩
  · have hrun : (boot.start (setup "kit").plan).2.map (·.loaded) = .error (.fault (World.missing "kit")) ∧
        (boot.start (setup "kit").plan).1.report =
          passed ++ [.failed "Load commands from 'kit'" .missingModule "No module named 'kit'"] := by decide +kernel
    have hfails : (boot.start (setup "kit").plan).2 = .error (.fault (World.missing "kit")) := by
      cases hresult : (boot.start (setup "kit").plan).2 with
      | ok r => rw [hresult] at hrun; cases hrun.1
      | error why => rw [hresult] at hrun; cases hrun.1; rfl
    obtain ⟨f, lines, label, left, hfirst, hsame⟩ := hfault _ hfails
    cases hmessage : f.message with
    | error f' =>
      -- without a message, the last line that was told would be one of the steps that have passed
      have hleft := (hfirst.tells hkit "").report
      have hlines : left.report = lines := List.append_cancel_right hleft
      have hstopped := congrArg (·.1.report) hfirst.start_stopped
      simp only [Boot.fail, hmessage, hlines] at hstopped
      obtain ⟨step, hstep⟩ := hfirst.passed _ (hstopped ▸ hrun.2 ▸ List.mem_append_right _ List.mem_cons_self)
      cases hstep
    | ok message =>
      obtain rfl := hsame message hmessage
      obtain ⟨-, htells, hmain⟩ := hreported _ _ _ _ _ hfirst hmessage
      have hlines : lines ++ [.failed label (World.missing "kit").kind message] =
          passed ++ [.failed "Load commands from 'kit'" .missingModule "No module named 'kit'"] :=
        htells.report.symm.trans hrun.2
      obtain ⟨rfl, hlast⟩ := List.append_inj' hlines rfl
      cases hlast
      exact ⟨left, hfirst, hmain _⟩
  · have hrun : (boot.start (setup "none").plan).2.map (·.settings.pluginPackage) = .ok none := by decide +kernel
    cases hresult : (boot.start (setup "none").plan).2 with
    | error why => rw [hresult] at hrun; cases hrun
    | ok r =>
      rw [hresult] at hrun
      obtain ⟨labels, booted, hpasses⟩ := (hcompletes r).mp hresult
      obtain ⟨hstart, -, -, -, -, hregistry, -⟩ := hcompleted r labels booted hpasses
      have hpackage : r.settings.pluginPackage = none := Except.ok.inj hrun
      have hown := hregistry _ rfl
      rw [hpackage] at hown
      exact ⟨booted, by rw [hstart], hown⟩

namespace EscapedPath

/-- A boot with an escape sequence in the path of its history. -/
def setup : BootSetup where
  host := { home := "/home", directory := "/work" }
  environment := [("TERMCORE_HISTORY_DB_PATH", "/x\x1b[31my")]
  platform := "Lean"

/-- A console off a terminal before its boot; there is a folder under the path of the history. -/
def boot : Boot where
  frontend := { screen := { showsEscapes := false } }
  log := { disk := { nodes := [("/x\x1b[31my", .folder)] } }

end EscapedPath

open EscapedPath in
/-- Off a terminal, the label of the failing step is printed without the escape sequence in it. -/
theorem escape_in_label_unprinted :
    (boot.start setup.plan).1.report =
        [.failed "Open history storage (/x\x1b[31my)" .unopenable "unable to open database file"] ∧
      (boot.start setup.plan).1.frontend.screen.text =
        "[FAILED] Open history storage (/xy) (OperationalError: unable to open database file)\n" := by
  constructor <;> decide +kernel

end CommandConsole
