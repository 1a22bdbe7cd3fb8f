import CommandConsole.Proofs.Boot.Tasks

/-!
# What is told during a boot

A status line that is told is added to the report and printed (`Boot.Tells`). Works are quiet if they keep away from the
report and print nothing but texts of another kind (`Booting.Quiet`), as those of the console itself do
(`BootSetup.plan_quiet`). Then a boot tells of the steps that have passed, if the report is to be verbose, and of the
first one that has failed, and of nothing else (`BootPlan.Completes.tells`, `BootPlan.FailsFirst.tells`).
-/

namespace CommandConsole

open Booting BootPlan

variable {plan : BootPlan} {b : Boot}

/-! ## Lines -/

/-- Status lines are printed, in this order, with texts of another kind in between. -/
inductive Screen.Prints (s : Screen) : List StatusLine → Screen → Prop where
  | none : Prints s [] s
  | own {lines : List StatusLine} {s' : Screen} (h : Prints s lines s') (text : String) : Prints s lines (s'.put text)
  | status {lines : List StatusLine} {s' : Screen} (h : Prints s lines s') (line : StatusLine) :
      Prints s (lines ++ [line]) (s'.printLine (styled line.text [line.style]))

/-- What is printed after other lines comes behind them. -/
theorem Screen.Prints.trans {s s' s'' : Screen} {lines more : List StatusLine} (h : s.Prints lines s')
    (hmore : s'.Prints more s'') : s.Prints (lines ++ more) s'' := by
  induction hmore with
  | none => simpa using h
  | own _ text ih => exact ih.own text
  | status _ line ih =>
    rw [← List.append_assoc]
    exact ih.status line

/-- Between two states of a boot, status lines are added to the report and printed. -/
structure Boot.Tells (lines : List StatusLine) (b b' : Boot) : Prop where
  report : b'.report = b.report ++ lines
  printed : b.frontend.screen.Prints lines b'.frontend.screen

namespace Boot.Tells

variable {lines more : List StatusLine} {b b' b'' : Boot}

theorem trans (h : Tells lines b b') (h' : Tells more b' b'') : Tells (lines ++ more) b b'' :=
  ⟨by rw [h'.report, h.report, List.append_assoc], h.printed.trans h'.printed⟩

/-- Nothing is told where the report and the screen stay as they are. -/
theorem nothing (hreport : b'.report = b.report) (hscreen : b'.frontend.screen = b.frontend.screen) : Tells [] b b' :=
  ⟨by rw [hreport, List.append_nil], by rw [hscreen]; exact .none⟩

/-- A line is told. -/
theorem tell (b : Boot) (line : StatusLine) : Tells [line] b (b.tell line) := ⟨rfl, Screen.Prints.none.status line⟩

/-- A step that has passed is told of, if the report is to be verbose. -/
theorem pass (b : Boot) (verbose : Bool) (label : String) :
    Tells (BootPlan.reportOf verbose [label]) b (b.pass verbose label) := by
  cases verbose with
  | true => exact tell b _
  | false => exact nothing rfl rfl

end Boot.Tells

/-- A work tells nothing itself: it leaves the report alone, and what it prints is its own. -/
def Booting.Quiet {α : Type} (work : Booting α) : Prop := ∀ b, Boot.Tells [] b (work.go b).2

namespace Booting

variable {α β : Type}

theorem quiet_pure (a : α) : Quiet (pure a) := fun _ => .nothing rfl rfl

theorem quiet_get : Quiet get := fun _ => .nothing rfl rfl

theorem quiet_throw (why : Stop) : Quiet (throw why : Booting α) := fun _ => .nothing rfl rfl

theorem quiet_modify {change : Boot → Boot} (h : ∀ b, Boot.Tells [] b (change b)) : Quiet (modify change) := h

/-- Quiet works make a quiet work. -/
theorem quiet_bind {work : Booting α} {next : α → Booting β} (h : work.Quiet) (hnext : ∀ a, (next a).Quiet) :
    Quiet (work >>= next) := by
  intro b
  have htells := h b
  rw [go_bind]
  rcases hwork : work.go b with ⟨why | a, left⟩
  · rw [hwork] at htells
    exact htells
  · rw [hwork] at htells
    exact htells.trans (hnext a left)

end Booting

/-- All works of a boot are quiet. -/
structure BootPlan.Quiet (plan : BootPlan) : Prop where
  loadSettings : plan.loadSettings.Quiet
  openLog : ∀ settings, (plan.openLog settings).Quiet
  openStorage : ∀ settings, (plan.openStorage settings).Quiet
  selectFrontend : plan.selectFrontend.Quiet
  startSession : ∀ settings storage, (plan.startSession settings storage).Quiet
  loadPackage : ∀ package, (plan.loadPackage package).Quiet

/-- Handing over the records of the session does not print anything. -/
theorem Boot.flush_tells (b : Boot) : Boot.Tells [] b b.flush := by
  unfold flush
  split <;> exact .nothing rfl rfl

/-- Noting the history tells nothing. -/
theorem Boot.noteRestored_tells (b : Boot) : Boot.Tells [] b b.noteRestored :=
  .trans b.flush_tells (.nothing rfl rfl)

/-- So all tasks of a boot are. -/
theorem BootPlan.Quiet.tasks {plan : BootPlan} (h : plan.Quiet) (settings : Settings) :
    ∀ t ∈ plan.tasks settings, (∀ p, (t.work p).Quiet) ∧ ∀ b, Boot.Tells [] b (t.note b) := by
  have hid : ∀ b : Boot, Boot.Tells [] b (id b) := fun _ => .nothing rfl rfl
  intro t ht
  simp only [BootPlan.tasks, opening, List.mem_append, List.mem_cons, List.not_mem_nil, or_false, List.mem_map] at ht
  rcases ht with ((((rfl | rfl | rfl) | ht) | rfl) | ⟨package, -, rfl⟩) | rfl
  · exact ⟨quiet_pure, hid⟩
  · exact ⟨fun p => quiet_bind (h.openLog settings) fun _ => quiet_pure p, hid⟩
  · exact ⟨fun p => quiet_bind (h.openStorage settings) fun _ => quiet_pure _, hid⟩
  · split at ht
    · cases ht
    · rw [List.mem_singleton.mp ht]
      exact ⟨fun p => quiet_bind h.selectFrontend fun _ => quiet_pure p, hid⟩
  · exact ⟨fun p => quiet_bind (h.startSession settings p.storage) fun _ => quiet_pure p, Boot.noteRestored_tells⟩
  · exact ⟨fun p => quiet_bind (h.loadPackage package) fun _ => quiet_pure _, hid⟩
  · exact ⟨quiet_pure, hid⟩

/-- The report of one label before the report of others. -/
theorem BootPlan.reportOf_cons (verbose : Bool) (label : String) (labels : List String) :
    reportOf verbose (label :: labels) = reportOf verbose [label] ++ reportOf verbose labels := by
  cases verbose <;> rfl

/-- Quiet tasks that pass tell their labels. -/
theorem Passes.tells {verbose : Bool} {ts : List Task} {p p' : Progress} {b b' : Boot} {labels : List String}
    (h : Passes verbose ts p b labels p' b')
    (hquiet : ∀ t ∈ ts, (∀ p, (t.work p).Quiet) ∧ ∀ b, Boot.Tells [] b (t.note b)) :
    Boot.Tells (reportOf verbose labels) b b' := by
  induction h with
  | none p b =>
    rw [show reportOf verbose [] = [] by cases verbose <;> rfl]
    exact .nothing rfl rfl
  | @next t ts p p' p'' b left b' labels hwork hrest ih =>
    rw [List.forall_mem_cons] at hquiet
    have hleft : Boot.Tells [] b left := by
      have htells := hquiet.1.1 p b
      rwa [hwork] at htells
    rw [reportOf_cons, ← List.append_nil (reportOf verbose [t.label b])]
    exact (hleft.trans ((Boot.Tells.pass left verbose (t.label b)).trans (hquiet.1.2 _))).trans (ih hquiet.2)

/-- The lines of the steps before a failing one tell that they have passed. -/
theorem BootPlan.FailsFirst.passed {f : Fault} {lines : List StatusLine} {label : String} {left : Boot}
    (h : plan.FailsFirst b f lines label left) : ∀ line ∈ lines, ∃ step, line = .passed step := by
  cases h with
  | settings _ => exact fun _ h => nomatch h
  | @task settings _ _ _ _ _ _ labels _ _ _ _ _ =>
    intro line hline
    unfold reportOf at hline
    split at hline
    · obtain ⟨step, -, rfl⟩ := List.mem_map.mp hline
      exact ⟨step, rfl⟩
    · cases hline

/-- A boot with a failing step tells of the steps before, and then of the failing one, if its line is told last. -/
theorem BootPlan.FailsFirst.tells {f : Fault} {lines : List StatusLine} {label : String} {left : Boot}
    (h : plan.FailsFirst b f lines label left) (hquiet : plan.Quiet) (message : String) :
    Boot.Tells (lines ++ [.failed label f.kind message]) b (left.tell (.failed label f.kind message)) := by
  have hconfigured := hquiet.loadSettings b
  refine .trans ?_ (.tell left _)
  cases h with
  | settings hfails =>
    rw [hfails] at hconfigured
    exact hconfigured
  | @task settings configured reached left before after t labels p hsettings htasks hpasses hfails =>
    rw [hsettings] at hconfigured
    have htask := hquiet.tasks settings
    rw [htasks] at htask
    have hleft : Boot.Tells [] reached left := by
      have htells := (htask t (by simp)).1 p reached
      rwa [hfails] at htells
    have hbefore := hpasses.tells fun t' ht' => htask t' (List.mem_append_left _ ht')
    simpa using (hconfigured.trans hbefore).trans hleft

/-- A boot whose steps pass tells of them. -/
theorem BootPlan.Completes.tells {r : BootResult} {labels : List String} {booted : Boot}
    (h : plan.Completes b r labels booted) (hquiet : plan.Quiet) :
    Boot.Tells (reportOf r.settings.showsBootSteps labels) b booted := by
  cases h with
  | @mk settings configured booted labels p hsettings hpasses =>
    have hconfigured := hquiet.loadSettings b
    rw [hsettings] at hconfigured
    exact hconfigured.trans (hpasses.tells (hquiet.tasks settings))

/-! ## The console's own boot -/

/-- What a frontend shows for a session is its own. -/
theorem Frontend.displayAll_prints {s : Screen} {lines : List StatusLine} {f : Frontend} (h : s.Prints lines f.screen)
    (os : List Output) : s.Prints lines (f.displayAll os).screen := by
  induction os generalizing f with
  | nil => exact h
  | cons o os ih =>
    refine ih ?_
    cases o with
    | write text => exact h.own _
    | clear =>
      rw [display, Screen.clear]
      split
      · exact h.own _
      · exact h
    | setInput text => exact h
    | setColors colors => exact h

namespace Booting

theorem quiet_ofExcept {α : Type} (result : Except Fault α) : (ofExcept result).Quiet := by
  cases result with
  | ok a => exact quiet_pure a
  | error f => exact quiet_throw _

/-- Starting a session shows its greeting. -/
theorem quiet_startSession (settings : Settings) (storage : Storage) : (startSession settings storage).Quiet := by
  intro b
  rw [startSession, go_bind, go_get]
  dsimp only
  cases hattached : b.frontend.attach storage settings with
  | error why => exact .nothing rfl rfl
  | ok frontend =>
    simp only [Frontend.attach, bind, Except.bind, pure, Except.pure] at hattached
    split at hattached
    · cases hattached
    · cases hattached
      have hprints := Frontend.displayAll_prints (f := { b.frontend with session := none }) .none
      exact ⟨(List.append_nil _).symm, hprints _⟩

/-- A session after a package was loaded. -/
def loadedSession (setup : BootSetup) (package : String) (s : Session) : Session :=
  let step := s.registry.loadCommands setup.world package
  (s.note step.notes).withRegistry step.state

/-- Loading a package changes the registry of the session and hands over its records. -/
theorem go_loadPackage (setup : BootSetup) (package : String) {b : Boot} {s : Session}
    (hsession : b.frontend.session = some s) :
    (loadPackage setup package).go b =
      ((s.registry.loadCommands setup.world package).result,
        (b.withSession (loadedSession setup package s)).flush) := by
  rw [loadPackage, go_bind, go_get]
  simp only [hsession]
  cases hresult : (s.registry.loadCommands setup.world package).result <;> rfl

theorem quiet_loadPackage (setup : BootSetup) (package : String) : (loadPackage setup package).Quiet := by
  intro b
  cases hsession : b.frontend.session with
  | none =>
    rw [loadPackage, go_bind, go_get]
    simp only [hsession]
    exact .nothing rfl rfl
  | some s =>
    rw [go_loadPackage setup package hsession]
    have hflushed := Boot.flush_tells (b.withSession (loadedSession setup package s))
    exact ⟨hflushed.report, hflushed.printed⟩

end Booting

/-- The console's own works are quiet. -/
theorem BootSetup.plan_quiet (setup : BootSetup) : setup.plan.Quiet where
  loadSettings := quiet_bind quiet_get fun _ => quiet_ofExcept _
  openLog settings := by
    refine quiet_bind quiet_get fun b => quiet_bind (quiet_modify fun _ => .nothing rfl rfl) fun _ => quiet_ofExcept _
  openStorage settings := by
    show (Booting.openStorage settings).Quiet
    unfold Booting.openStorage
    split
    · exact quiet_pure _
    · exact quiet_bind quiet_get fun b => quiet_bind (quiet_modify fun _ => .nothing rfl rfl) fun _ =>
        quiet_bind (quiet_ofExcept _) fun _ => quiet_pure _
  selectFrontend := quiet_modify fun _ => .nothing rfl rfl
  startSession := quiet_startSession
  loadPackage := quiet_loadPackage setup

end CommandConsole
