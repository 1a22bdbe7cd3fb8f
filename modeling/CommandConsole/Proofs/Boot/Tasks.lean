import CommandConsole.Boot.Sequence

/-!
# Boots as lists of tasks

After the settings are loaded, the boot sequence carries out a list of tasks (`BootPlan.tasks`, `sequence_eq`), each
from the state that the one before has left. Either all of them pass, or there is a first one that is stopped
(`passes_or_stopped`), and what comes after it is never reached. So a boot completes, or it has a first step that fails,
or it is interrupted (`start_cases`), and in the first two cases it is known what it gives back
(`BootPlan.Completes.start_eq`, `BootPlan.FailsFirst.start_stopped`).
-/

namespace CommandConsole

/-! ## Works -/

namespace Booting

variable {α β : Type}

/-- What a work comes to, from a state of the boot on. -/
def go (work : Booting α) (b : Boot) : Except Stop α × Boot := work.run.run b

theorem go_pure (a : α) (b : Boot) : (pure a : Booting α).go b = (.ok a, b) := rfl

theorem go_get (b : Boot) : (get : Booting Boot).go b = (.ok b, b) := rfl

theorem go_modify (change : Boot → Boot) (b : Boot) : (modify change : Booting Unit).go b = (.ok (), change b) := rfl

/-- One work after another. -/
theorem go_bind (work : Booting α) (next : α → Booting β) (b : Boot) :
    (work >>= next).go b =
      match work.go b with
      | (.ok a, b) => (next a).go b
      | (.error why, b) => (.error why, b) := by
  show (ExceptT.bind work next).run.run b = _
  simp only [go, ExceptT.run, ExceptT.bind, ExceptT.mk, StateT.run, bind, StateT.bind]
  rcases work b with ⟨result, after⟩
  cases result <;> rfl

end Booting

/-- Works that come to the same from each state are the same. -/
theorem Booting.ext_go {α : Type} {work work' : Booting α} (h : ∀ b, work.go b = work'.go b) : work = work' := funext h

/-- The report of a step that has passed. -/
def Boot.pass (b : Boot) (verbose : Bool) (label : String) : Boot := if verbose then b.tell (.passed label) else b

/-- The report of a step that was stopped; an interrupt is not reported, nor is a fault whose message cannot be formed. -/
def Boot.fail (b : Boot) (label : String) : Stop → Boot
  | .fault f =>
    match f.message with
    | .ok message => b.tell (.failed label f.kind message)
    | .error _ => b
  | .interrupt _ => b

/-- What goes on from a step that was stopped: the same, or the failure to form the message of a fault. -/
def Stop.onward : Stop → Stop
  | .fault f =>
    match f.message with
    | .ok _ => .fault f
    | .error f' => .fault f'
  | .interrupt m => .interrupt m

/-- A step is its work and its report. -/
theorem Booting.go_step {α : Type} (label : String) (verbose : Bool) (work : Booting α) (b : Boot) :
    (step label verbose work).go b =
      match work.go b with
      | (.ok a, b) => (.ok a, b.pass verbose label)
      | (.error why, b) => (.error why.onward, b.fail label why) := by
  simp only [go, step, ExceptT.run, ExceptT.mk, StateT.run, bind, StateT.bind]
  rcases work b with ⟨result, after⟩
  cases result with
  | ok a => cases verbose <;> rfl
  | error why =>
    cases why with
    | interrupt m => rfl
    | fault f =>
      simp only [Boot.fail, Stop.onward]
      cases f.message <;> rfl

/-! ## Tasks -/

/-- What a boot has settled besides its settings. -/
structure Progress where
  storage : Storage := {}
  loaded : Nat := 0

/-- A step of a boot: its label, what it does, and what is noted behind its line in the report. -/
structure Task where
  label : Boot → String
  work : Progress → Booting Progress
  note : Boot → Boot := id

namespace BootPlan

/-- Where the history is kept, as the report has it. -/
def place (settings : Settings) : String := settings.historyPath.getD "memory"

/-- The tasks up to the frontend, which need no session. -/
def opening (plan : BootPlan) (settings : Settings) : List Task :=
  [{ label := fun _ => s!"Detect environment: {plan.platform}", work := pure },
   { label := fun _ => "Initialize logger", work := fun p => do plan.openLog settings; return p },
   { label := fun _ => s!"Open history storage ({place settings})"
     work := fun p => do return { p with storage := ← plan.openStorage settings } }] ++
  if plan.hasFrontend then [] else
    [{ label := fun _ => "Select frontend", work := fun p => do plan.selectFrontend; return p }]

/-- The task that starts the session. -/
def building (plan : BootPlan) (settings : Settings) : Task where
  label _ := "Build interpreter"
  work p := do plan.startSession settings p.storage; return p
  note := Boot.noteRestored

/-- The task that loads a package. -/
def loading (plan : BootPlan) (package : String) : Task where
  label _ := s!"Load commands from '{package}'"
  work p := do return { p with loaded := ← plan.loadPackage package }

section

variable (plan : BootPlan) (settings : Settings) (package : String) (b : Boot) (p : Progress)

@[simp] theorem building_label : (plan.building settings).label b = "Build interpreter" := rfl

@[simp] theorem building_work :
    (plan.building settings).work p = do plan.startSession settings p.storage; return p := rfl

@[simp] theorem building_note : (plan.building settings).note = Boot.noteRestored := rfl

@[simp] theorem loading_label : (plan.loading package).label b = s!"Load commands from '{package}'" := rfl

@[simp] theorem loading_work :
    (plan.loading package).work p = do return { p with loaded := ← plan.loadPackage package } := rfl

@[simp] theorem loading_note : (plan.loading package).note = id := rfl

end

/-- The last task, which does nothing but count the commands in its label. -/
def completion : Task where
  label b := s!"Boot complete ({b.commandCount} commands)"
  work := pure

@[simp] theorem completion_label (b : Boot) : completion.label b = s!"Boot complete ({b.commandCount} commands)" := rfl

@[simp] theorem completion_work (p : Progress) : completion.work p = pure p := rfl

@[simp] theorem completion_note : completion.note = id := rfl

/-- The tasks of a boot once its settings are known. -/
def tasks (plan : BootPlan) (settings : Settings) : List Task :=
  plan.opening settings ++ [plan.building settings] ++ settings.pluginPackage.toList.map plan.loading ++ [completion]

end BootPlan

namespace Booting

/-- Carries out tasks, one after the other. -/
def carryOut (verbose : Bool) : List Task → Progress → Booting Progress
  | [], p => pure p
  | t :: ts, p => do
    let p ← step (t.label (← get)) verbose (t.work p)
    modify t.note
    carryOut verbose ts p

theorem go_carryOut_nil (verbose : Bool) (p : Progress) (b : Boot) : (carryOut verbose [] p).go b = (.ok p, b) := rfl

/-- The first task, then the others. -/
theorem go_carryOut_cons (verbose : Bool) (t : Task) (ts : List Task) (p : Progress) (b : Boot) :
    (carryOut verbose (t :: ts) p).go b =
      match (t.work p).go b with
      | (.ok p, left) => (carryOut verbose ts p).go (t.note (left.pass verbose (t.label b)))
      | (.error why, left) => (.error why.onward, left.fail (t.label b) why) := by
  rw [carryOut, go_bind, go_get]
  simp only [go_bind, go_step, go_modify]
  rcases (t.work p).go b with ⟨result, left⟩
  cases result <;> rfl

/-- A step that does something with the result of its work. -/
theorem step_map {α β : Type} (label : String) (verbose : Bool) (work : Booting α) (f : α → β) :
    step label verbose (f <$> work) = f <$> step label verbose work := by
  simp only [map_eq_pure_bind]
  apply ext_go
  intro b
  simp only [go_step, go_bind, go_pure]
  rcases work.go b with ⟨result, left⟩
  cases result <;> rfl

/-- A step that only gives back what has been settled is a step that does nothing. -/
theorem step_pure (label : String) (verbose : Bool) (p : Progress) :
    step label verbose (pure p) = (fun _ => p) <$> step label verbose (pure ()) := by
  rw [← step_map, map_pure]

/-- A label need not look at the state. -/
theorem get_bind_const {α : Type} (work : Booting α) : (get >>= fun _ => work) = work := rfl

theorem modify_id : (modify id : Booting Unit) = pure () := rfl

/-- The boot sequence loads the settings and carries out the tasks. -/
theorem sequence_eq (plan : BootPlan) :
    sequence plan = do
      let settings ← step "Load configuration" false plan.loadSettings
      let p ← carryOut settings.showsBootSteps (plan.tasks settings) {}
      return ⟨settings, p.loaded⟩ := by
  unfold sequence
  congr 1
  funext settings
  cases hfrontend : plan.hasFrontend <;> cases hpackage : settings.pluginPackage
  all_goals
    rw [BootPlan.tasks, BootPlan.opening, hfrontend, hpackage]
    simp [carryOut, step_map, step_pure, get_bind_const, modify_id, BootPlan.place]

/-- So a boot is what becomes of the settings, then of the tasks. -/
theorem go_sequence (plan : BootPlan) (b : Boot) :
    (sequence plan).go b =
      match plan.loadSettings.go b with
      | (.error why, left) => (.error why.onward, left.fail "Load configuration" why)
      | (.ok settings, configured) =>
        match (carryOut settings.showsBootSteps (plan.tasks settings) {}).go configured with
        | (.error why, left) => (.error why, left)
        | (.ok p, booted) => (.ok ⟨settings, p.loaded⟩, booted) := by
  rw [sequence_eq]
  simp only [go_bind, go_step]
  rcases plan.loadSettings.go b with ⟨result, configured⟩
  cases result with
  | error why => rfl
  | ok settings =>
    simp only [Boot.pass, Bool.false_eq_true, if_false]
    rcases (carryOut settings.showsBootSteps (plan.tasks settings) {}).go configured with ⟨_ | p, booted⟩ <;> rfl

end Booting

/-! ## The first task that fails -/

/-- Tasks pass, each from the state that the one before has left. -/
inductive Passes (verbose : Bool) : List Task → Progress → Boot → List String → Progress → Boot → Prop where
  | none (p : Progress) (b : Boot) : Passes verbose [] p b [] p b
  | next {t : Task} {ts : List Task} {p p' p'' : Progress} {b left b' : Boot} {labels : List String}
      (hwork : (t.work p).go b = (.ok p', left))
      (hrest : Passes verbose ts p' (t.note (left.pass verbose (t.label b))) labels p'' b') :
      Passes verbose (t :: ts) p b (t.label b :: labels) p'' b'

namespace Passes

variable {verbose : Bool} {before after ts : List Task} {p p' : Progress} {b b' : Boot} {labels : List String}

/-- Tasks that pass are carried out before the others. -/
theorem go_carryOut (h : Passes verbose before p b labels p' b') (after : List Task) :
    (Booting.carryOut verbose (before ++ after) p).go b = (Booting.carryOut verbose after p').go b' := by
  induction h with
  | none p b => rfl
  | next hwork hrest ih =>
    rw [List.cons_append, Booting.go_carryOut_cons, hwork]
    exact ih

/-- Of many tasks that pass, the first ones pass before the others. -/
theorem split (h : Passes verbose (before ++ after) p b labels p' b') :
    ∃ first later reached between, labels = first ++ later ∧ Passes verbose before p b first reached between ∧
      Passes verbose after reached between later p' b' := by
  induction before generalizing p b labels with
  | nil => exact ⟨[], labels, p, b, rfl, .none p b, h⟩
  | cons t ts ih =>
    cases h with
    | next hwork hrest =>
      obtain ⟨first, later, reached, between, rfl, hfirst, hlater⟩ := ih hrest
      exact ⟨_, later, reached, between, rfl, .next hwork hfirst, hlater⟩

/-- Labels that do not look at the state are those of the tasks. -/
theorem labels_eq (h : Passes verbose ts p b labels p' b') (hconst : ∀ t ∈ ts, ∀ b b', t.label b = t.label b')
    (b₀ : Boot) : labels = ts.map (·.label b₀) := by
  induction h with
  | none p b => rfl
  | next hwork hrest ih =>
    rw [List.forall_mem_cons] at hconst
    rw [List.map_cons, hconst.1 _ b₀, ih hconst.2]

end Passes

/-- Either all tasks pass, or there is a first one that is stopped. -/
theorem passes_or_stopped (verbose : Bool) (ts : List Task) (p : Progress) (b : Boot) :
    (∃ labels p' b', Passes verbose ts p b labels p' b') ∨
      ∃ before t after labels p' reached why left, ts = before ++ t :: after ∧
        Passes verbose before p b labels p' reached ∧ (t.work p').go reached = (.error why, left) := by
  induction ts generalizing p b with
  | nil => exact Or.inl ⟨[], p, b, .none p b⟩
  | cons t ts ih =>
    rcases hwork : (t.work p).go b with ⟨_ | p', left⟩
    · exact Or.inr ⟨[], t, ts, [], p, b, _, left, rfl, .none p b, hwork⟩
    · rcases ih p' (t.note (left.pass verbose (t.label b))) with hpasses | hstopped
      · obtain ⟨labels, p'', b', hpasses⟩ := hpasses
        exact Or.inl ⟨_, p'', b', .next hwork hpasses⟩
      · obtain ⟨before, t', after, labels, p'', reached, why, left', rfl, hpasses, hstops⟩ := hstopped
        exact Or.inr ⟨t :: before, t', after, _, p'', reached, why, left', rfl, .next hwork hpasses, hstops⟩

namespace BootPlan

/-- The lines of steps that have passed, if the report is to be verbose. -/
def reportOf (verbose : Bool) (labels : List String) : List StatusLine := if verbose then labels.map .passed else []

/-- The first step of a boot that fails raises a fault: the settings cannot be loaded, or all tasks before one pass and
this one fails. The lines are what is reported of the steps before; the label is that of the failing step, and the state
is what it has left. -/
inductive FailsFirst (plan : BootPlan) (b : Boot) (f : Fault) : List StatusLine → String → Boot → Prop where
  | settings {left : Boot} (hfails : plan.loadSettings.go b = (.error (.fault f), left)) :
      FailsFirst plan b f [] "Load configuration" left
  | task {settings : Settings} {configured reached left : Boot} {before after : List Task} {t : Task}
      {labels : List String} {p : Progress} (hsettings : plan.loadSettings.go b = (.ok settings, configured))
      (htasks : plan.tasks settings = before ++ t :: after)
      (hpasses : Passes settings.showsBootSteps before {} configured labels p reached)
      (hfails : (t.work p).go reached = (.error (.fault f), left)) :
      FailsFirst plan b f (reportOf settings.showsBootSteps labels) (t.label reached) left

/-- All steps of a boot pass. -/
inductive Completes (plan : BootPlan) (b : Boot) : BootResult → List String → Boot → Prop where
  | mk {settings : Settings} {configured booted : Boot} {labels : List String} {p : Progress}
      (hsettings : plan.loadSettings.go b = (.ok settings, configured))
      (hpasses : Passes settings.showsBootSteps (plan.tasks settings) {} configured labels p booted) :
      Completes plan b ⟨settings, p.loaded⟩ labels booted

end BootPlan

open Booting BootPlan

variable {plan : BootPlan} {b : Boot}

/-- A boot gives back what its sequence comes to. -/
theorem Boot.start_eq (b : Boot) (plan : BootPlan) :
    b.start plan = (((sequence plan).go b).2, ((sequence plan).go b).1) := rfl

/-- A boot with a failing step ends there. -/
theorem BootPlan.FailsFirst.start_stopped {f : Fault} {lines : List StatusLine} {label : String} {left : Boot}
    (h : plan.FailsFirst b f lines label left) :
    b.start plan = (left.fail label (.fault f), .error (Stop.onward (.fault f))) := by
  rw [Boot.start_eq, go_sequence]
  cases h with
  | settings hfails => rw [hfails]
  | task hsettings htasks hpasses hfails =>
    simp only [hsettings, htasks]
    rw [hpasses.go_carryOut, go_carryOut_cons, hfails]

/-- It ends with the fault of the step and its line, if the message of the fault can be formed. -/
theorem BootPlan.FailsFirst.start_eq {f : Fault} {lines : List StatusLine} {label message : String} {left : Boot}
    (h : plan.FailsFirst b f lines label left) (hmessage : f.message = .ok message) :
    b.start plan = (left.tell (.failed label f.kind message), .error (.fault f)) := by
  rw [h.start_stopped]
  simp only [Boot.fail, Stop.onward, hmessage]

/-- A boot whose steps pass gives back what they have settled. -/
theorem BootPlan.Completes.start_eq {r : BootResult} {labels : List String} {booted : Boot}
    (h : plan.Completes b r labels booted) : b.start plan = (booted, .ok r) := by
  rw [Boot.start_eq, go_sequence]
  cases h with
  | mk hsettings hpasses =>
    have hcarried := hpasses.go_carryOut []
    rw [List.append_nil, go_carryOut_nil] at hcarried
    simp only [hsettings, hcarried]

/-- A boot completes, or it has a first step that fails, or it is interrupted. -/
theorem start_cases (plan : BootPlan) (b : Boot) :
    (∃ r labels booted, plan.Completes b r labels booted) ∨
      (∃ f lines label left, plan.FailsFirst b f lines label left) ∨
      ∃ m, (b.start plan).2 = .error (.interrupt m) := by
  rcases hsettings : plan.loadSettings.go b with ⟨why | settings, configured⟩
  · right
    cases why with
    | fault f => exact Or.inl ⟨f, _, _, _, .settings hsettings⟩
    | interrupt m =>
      right
      refine ⟨m, ?_⟩
      rw [Boot.start_eq, go_sequence, hsettings]
      rfl
  · rcases passes_or_stopped settings.showsBootSteps (plan.tasks settings) {} configured with hpasses | hstopped
    · obtain ⟨labels, p, booted, hpasses⟩ := hpasses
      exact Or.inl ⟨_, labels, booted, .mk hsettings hpasses⟩
    · right
      obtain ⟨before, t, after, labels, p, reached, why, left, htasks, hpasses, hstops⟩ := hstopped
      cases why with
      | fault f => exact Or.inl ⟨f, _, _, left, .task hsettings htasks hpasses hstops⟩
      | interrupt m =>
        right
        refine ⟨m, ?_⟩
        rw [Boot.start_eq, go_sequence]
        simp only [hsettings, htasks]
        rw [hpasses.go_carryOut, go_carryOut_cons, hstops]
        rfl

/-- A boot gives a result only if it completes. -/
theorem BootPlan.completes_of_start {r : BootResult} (h : (b.start plan).2 = .ok r) :
    ∃ labels booted, plan.Completes b r labels booted := by
  rcases start_cases plan b with ⟨r', labels, booted, hcompletes⟩ | ⟨f, lines, label, left, hfails⟩ | ⟨m, hstopped⟩
  · rw [hcompletes.start_eq] at h
    cases h
    exact ⟨labels, booted, hcompletes⟩
  · rw [hfails.start_stopped] at h
    cases h
  · rw [hstopped] at h
    cases h

/-- It ends with a fault only if a step fails; that is the fault of the step, if its message can be formed. -/
theorem BootPlan.failsFirst_of_start {f' : Fault} (h : (b.start plan).2 = .error (.fault f')) :
    ∃ f lines label left, plan.FailsFirst b f lines label left ∧ ∀ message, f.message = .ok message → f' = f := by
  rcases start_cases plan b with ⟨r, labels, booted, hcompletes⟩ | ⟨f, lines, label, left, hfails⟩ | ⟨m, hstopped⟩
  · rw [hcompletes.start_eq] at h
    cases h
  · refine ⟨f, lines, label, left, hfails, fun message hmessage => ?_⟩
    rw [hfails.start_eq hmessage] at h
    cases h
    rfl
  · rw [hstopped] at h
    cases h

end CommandConsole
