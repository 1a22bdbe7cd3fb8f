import Mathlib.Data.List.TakeWhile
import CommandConsole.Proofs.Text.CharMap
import CommandConsole.Proofs.Text.Pieces
import CommandConsole.Proofs.Text.Points
import CommandConsole.Settings.Location

/-!
# What stands in a location

A location leads to a path if the system takes all that is in it (`Point.mayName`), once homes and variables have been put
in their places, and no link on the way leads round or cannot be read (`resolve_ok`). What comes into a location in this way
stands in the variables of the host or in its homes, where no null character can be (`Host.NullFree.expanded_ok`). Whatever
goes wrong is a value that does not fit, or the fault of a link (`resolve_refusal`).
-/

namespace CommandConsole

/-! ## Faults -/

/-- Nothing goes wrong but what is said of the fault. -/
def FailsOnly {α : Type} (P : Fault → Prop) (r : Except Fault α) : Prop := ∀ f, r = .error f → P f

namespace FailsOnly

variable {α β : Type} {P Q : Fault → Prop} {r : Except Fault α}

theorem ok (a : α) : FailsOnly P (.ok a : Except Fault α) := by
  rintro f ⟨⟩

theorem error {f : Fault} (h : P f) : FailsOnly P (.error f : Except Fault α) := by
  rintro g ⟨⟩
  exact h

theorem mono (hr : FailsOnly P r) (h : ∀ f, P f → Q f) : FailsOnly Q r := fun f hf => h f (hr f hf)

theorem bind (hr : FailsOnly P r) {next : α → Except Fault β} (hnext : ∀ a, FailsOnly P (next a)) :
    FailsOnly P (r >>= next) := by
  cases r with
  | error f => exact error (hr f rfl)
  | ok a => exact hnext a

theorem map (hr : FailsOnly P r) (g : α → β) : FailsOnly P (r.map g) := by
  cases r with
  | error f => exact error (hr f rfl)
  | ok a => exact ok (g a)

end FailsOnly

/-! ## Names -/

/-- The system takes all code points of a name. -/
def Nameable (ps : List Point) : Prop := ∀ p ∈ ps, p.mayName = true

instance (ps : List Point) : Decidable (Nameable ps) := inferInstanceAs (Decidable (∀ p ∈ ps, _))

namespace Nameable

variable {ps qs : List Point}

theorem subset (h : Nameable qs) (hsub : ps ⊆ qs) : Nameable ps := fun p hp => h p (hsub hp)

theorem append (hp : Nameable ps) (hq : Nameable qs) : Nameable (ps ++ qs) := by
  intro p hmem
  rcases List.mem_append.mp hmem with hmem | hmem
  · exact hp p hmem
  · exact hq p hmem

/-- Characters can be in a name, but for the null character. -/
theorem ofChars {cs : List Char} (h : '\x00' ∉ cs) : Nameable (cs.map .char) := by
  intro p hp
  obtain ⟨c, hc, rfl⟩ := List.mem_map.mp hp
  have hne : c ≠ '\x00' := fun heq => h (heq ▸ hc)
  simp [Point.mayName, Point.isStray, hne]

theorem notStray (h : Nameable ps) : ∀ p ∈ ps, p.isStray = false := by
  intro p hp
  have hmay := h p hp
  rw [Point.mayName, Bool.and_eq_true, Bool.not_eq_true'] at hmay
  exact hmay.1

end Nameable

theorem strayFault?_eq_none {ahead : Nat} {ps : List Point} (h : ∀ p ∈ ps, p.isStray = false) :
    strayFault? ahead ps = none := by
  have hnone : ps.dropWhile (!·.isStray) = [] := List.dropWhile_eq_nil_iff.mpr fun p hp => by simp [h p hp]
  rw [strayFault?, hnone]

/-- A name is refused as a value, or for a surrogate in it. -/
def IsMisfit (f : Fault) : Prop := f.kind = .value ∨ f.kind = .encoding

theorem strayFault?_misfit {ahead : Nat} {ps : List Point} {f : Fault} (h : strayFault? ahead ps = some f) :
    IsMisfit f := by
  rw [strayFault?] at h
  split at h
  · cases h
  · cases h
    exact Or.inr rfl

theorem checkPathName_misfit (ahead : Nat) (name : List Point) : FailsOnly IsMisfit (checkPathName ahead name) := by
  rw [checkPathName]
  split
  · rename_i f hstray
    exact .error (strayFault?_misfit hstray)
  · split
    · exact .error (Or.inl rfl)
    · exact .ok ()

/-- The system takes a name if it takes all code points of it, and no other one. -/
theorem checkPathName_eq_ok {ahead : Nat} {name : List Point} : checkPathName ahead name = .ok () ↔ Nameable name := by
  constructor
  · intro h p hp
    rw [checkPathName] at h
    split at h
    · cases h
    · rename_i hstray
      split at h
      · cases h
      · rename_i hnull
        have hdrop : name.dropWhile (!·.isStray) = [] := by
          rw [strayFault?] at hstray
          split at hstray
          · assumption
          · cases hstray
        have hclean := List.dropWhile_eq_nil_iff.mp hdrop p hp
        rw [Point.mayName, hclean, Bool.true_and, decide_eq_true_eq]
        exact fun heq => hnull (heq ▸ hp)
  · intro h
    have hnull : Point.char '\x00' ∉ name := fun hmem => absurd (h _ hmem) (by decide)
    rw [checkPathName, strayFault?_eq_none h.notStray]
    exact if_neg hnull

namespace Host

variable {h : Host}

/-! ## Homes and variables -/

/-- No null characters are in what a host has to put into a location. -/
structure NullFree (h : Host) : Prop where
  environment : ∀ e ∈ h.environment, '\x00' ∉ e.2.toList
  home : '\x00' ∉ h.home.toList
  accounts : ∀ e ∈ h.accounts, '\x00' ∉ e.2.toList
  directory : '\x00' ∉ h.directory.toList

/-- A variable is mentioned by code points that are there. -/
theorem mention?_subset {ps name : List Point} {length : Nat} (hmention : mention? ps = some (name, length)) :
    name ⊆ ps := by
  rw [mention?.eq_def] at hmention
  split at hmention
  · rename_i rest
    dsimp only at hmention
    split at hmention
    · cases hmention
      exact List.Subset.trans (List.takeWhile_subset _) (List.subset_cons_self _ _)
    · cases hmention
  · dsimp only at hmention
    split at hmention
    · cases hmention
    · cases hmention
      exact List.takeWhile_subset _

/-- A text that the system takes is one also after its variables were replaced. -/
theorem NullFree.expandAfter_ok (hn : h.NullFree) (skip : Nat) (ps : List Point) (hps : Nameable ps) :
    ∃ qs, h.expandAfter skip ps = .ok qs ∧ Nameable qs := by
  fun_induction expandAfter h skip ps with
  | case1 => exact ⟨[], rfl, hps⟩
  | case2 skip p ps ih => exact ih (hps.subset (List.subset_cons_self _ _))
  | case3 p ps hnone ih =>
    obtain ⟨qs, hqs, hnames⟩ := ih (hps.subset (List.subset_cons_self _ _))
    rw [hqs]
    exact ⟨p :: qs, rfl, List.forall_mem_cons.mpr ⟨hps p List.mem_cons_self, hnames⟩⟩
  | case4 p ps name length hmention ih =>
    obtain ⟨qs, hqs, hnames⟩ := ih (hps.subset (List.subset_cons_self _ _))
    have hname : name ⊆ ps := by
      split at hmention
      · exact mention?_subset hmention
      · cases hmention
    have hread : h.assigned? name = .ok (h.environment.lookup (shownText name)) := by
      rw [assigned?, strayFault?_eq_none fun p hp => hps.notStray p (List.mem_cons_of_mem _ (hname hp))]
    rw [hread, hqs]
    refine ⟨_, rfl, Nameable.append ?_ hnames⟩
    cases hvariable : h.environment.lookup (shownText name) with
    | none => exact hps.subset (List.cons_subset_cons _ (List.take_subset _ _))
    | some text => exact .ofChars (hn.environment _ (mem_of_lookup hvariable))

/-- There are no null characters in the homes that a tilde can stand for. -/
theorem NullFree.homeOf_ok (hn : h.NullFree) {name : List Point} (hname : Nameable name) :
    ∃ home?, h.homeOf name = .ok home? ∧ ∀ home, home? = some home → '\x00' ∉ home.toList := by
  rw [Host.homeOf]
  split
  · refine ⟨_, rfl, fun home hhome => ?_⟩
    cases hhome
    cases hvariable : h.environment.lookup "HOME" with
    | none => exact hn.home
    | some text => exact hn.environment _ (mem_of_lookup hvariable)
  · rw [checkPathName_eq_ok.mpr hname]
    exact ⟨_, rfl, fun home hhome => hn.accounts _ (mem_of_lookup hhome)⟩

/-- A text that the system takes is one also with the home that its tilde stands for. -/
theorem NullFree.expandHome_ok (hn : h.NullFree) {ps : List Point} (hps : Nameable ps) :
    ∃ qs, h.expandHome ps = .ok qs ∧ Nameable qs := by
  rw [Host.expandHome.eq_def]
  split
  · rename_i rest
    have hrest : Nameable rest := hps.subset (List.subset_cons_self _ _)
    obtain ⟨home?, hhome, hnull⟩ := hn.homeOf_ok (hrest.subset (List.takeWhile_subset (· ≠ .char '/')))
    rw [hhome]
    cases home? with
    | none => exact ⟨_, rfl, hps⟩
    | some home =>
      have hjoined : Nameable ((dropSlashes home.toList).map .char ++ rest.dropWhile (· ≠ .char '/')) := by
        refine .append (.ofChars fun hmem => hnull home rfl ?_) (hrest.subset (List.dropWhile_subset _))
        exact List.mem_reverse.mp ((List.dropWhile_suffix _).subset (List.mem_reverse.mp hmem))
      simp only [bind, Except.bind]
      split
      · exact ⟨_, rfl, by decide⟩
      · exact ⟨_, rfl, hjoined⟩
  · exact ⟨ps, rfl, hps⟩

/-- On a host without null characters, the system takes what becomes of a location that it takes. -/
theorem NullFree.expanded_ok (hn : h.NullFree) {location : List Point} (hlocation : Nameable location) :
    ∃ ps, h.expanded location = .ok ps ∧ Nameable ps := by
  obtain ⟨qs, hqs, hnames⟩ := hn.expandHome_ok hlocation
  obtain ⟨ps, hps, hnames⟩ := hn.expandAfter_ok 0 qs hnames
  exact ⟨ps, by rw [expanded, hqs]; exact hps, hnames⟩

/-! ## Ways -/

/-- The next link on a way, if there is one, leads to a place. -/
def Leading (h : Host) : Prop := ∀ l ∈ h.links, ∃ goal, l.2 = .to goal

theorem mem_of_link? {places : List (List Point)} {link : Link} (hlink : h.link? places = some link) :
    ∃ path, (path, link) ∈ h.links := by
  rw [link?, Option.map_eq_some_iff] at hlink
  obtain ⟨⟨path, _⟩, hfound, rfl⟩ := hlink
  exact ⟨path, List.mem_of_find?_eq_some hfound⟩

/-- A way along names that the system takes leads somewhere, if all links do. -/
theorem Leading.walk_ok (hl : h.Leading) (components : List (List Point)) :
    ∀ places, (∀ c ∈ components, Nameable c) → ∃ path, h.walk places components = .ok path := by
  induction components with
  | nil => exact fun places _ => ⟨_, rfl⟩
  | cons component rest ih =>
    intro places hnames
    rw [List.forall_mem_cons] at hnames
    rw [walk]
    split
    · exact ih _ hnames.2
    · rw [checkPathName_eq_ok.mpr hnames.1]
      dsimp only
      split
      · exact ih _ hnames.2
      · exact ih _ hnames.2
      · rename_i way hlink
        obtain ⟨path, hmem⟩ := mem_of_link? hlink
        obtain ⟨goal, hgoal⟩ := hl _ hmem
        cases hgoal
      · rename_i f hlink
        obtain ⟨path, hmem⟩ := mem_of_link? hlink
        obtain ⟨goal, hgoal⟩ := hl _ hmem
        cases hgoal

/-- What is gone through for a location, from the root on. -/
def wholePath (h : Host) (ps : List Point) : List Point :=
  if ps.head? = some (.char '/') then ps else pointsOf h.directory ++ .char '/' :: ps

theorem resolve_eq (h : Host) (location : List Point) :
    h.resolve location = h.expanded location >>= fun ps => h.walk [] (piecesAt (.char '/') (h.wholePath ps)) := rfl

/-- The system takes all components of what is gone through. -/
theorem NullFree.wholePath (hn : h.NullFree) {ps : List Point} (hps : Nameable ps) :
    ∀ c ∈ piecesAt (.char '/') (h.wholePath ps), Nameable c := by
  intro c hc
  refine Nameable.subset ?_ (subset_of_mem_piecesAt hc)
  rw [Host.wholePath]
  split
  · exact hps
  · exact .append (.ofChars hn.directory) (List.forall_mem_cons.mpr ⟨by decide, hps⟩)

/-- On a host without null characters whose links all lead somewhere, a location that the system takes leads to a path. -/
theorem NullFree.resolve_ok (hn : h.NullFree) (hl : h.Leading) {location : List Point} (hlocation : Nameable location) :
    ∃ path, h.resolve location = .ok path := by
  obtain ⟨ps, hexpanded, hps⟩ := hn.expanded_ok hlocation
  rw [resolve_eq, hexpanded]
  exact hl.walk_ok _ _ (hn.wholePath hps)

/-! ## Refusals -/

/-- Why a location leads nowhere: it does not fit, or a link on its way leads round or cannot be read. -/
inductive Refusal (h : Host) : Fault → Prop where
  | misfit {f : Fault} (hmisfit : IsMisfit f) : h.Refusal f
  | circle {path rest : String} (hlink : (path, .loop rest) ∈ h.links) (message : String) : h.Refusal (.badState message)
  | unreadable {path : String} {f : Fault} (hlink : (path, .unreadable f) ∈ h.links) : h.Refusal f

theorem assigned?_misfit (name : List Point) : FailsOnly IsMisfit (h.assigned? name) := by
  rw [assigned?]
  split
  · rename_i f hstray
    exact .error (strayFault?_misfit hstray)
  · exact .ok _

theorem homeOf_misfit (name : List Point) : FailsOnly IsMisfit (h.homeOf name) := by
  rw [homeOf]
  split
  · exact .ok _
  · exact (checkPathName_misfit 0 name).map _

/-- Only names that the system does not take are refused where homes and variables are put in their places. -/
theorem expandHome_misfit (ps : List Point) : FailsOnly IsMisfit (h.expandHome ps) := by
  rw [expandHome.eq_def]
  split
  · refine (homeOf_misfit _).bind fun home? => ?_
    split
    · exact .ok _
    · split <;> exact .ok _
  · exact .ok _

theorem expandAfter_misfit (skip : Nat) (ps : List Point) : FailsOnly IsMisfit (h.expandAfter skip ps) := by
  fun_induction expandAfter h skip ps with
  | case1 => exact .ok []
  | case2 skip p ps ih => exact ih
  | case3 p ps hnone ih => exact ih.map _
  | case4 p ps name length hmention ih => exact (assigned?_misfit name).bind fun text? => ih.bind fun rest => .ok _

theorem expanded_misfit (location : List Point) : FailsOnly IsMisfit (h.expanded location) :=
  (expandHome_misfit location).bind fun ps => expandAfter_misfit 0 ps

theorem lookUp_refusal {path rest : String} (hlink : (path, .loop rest) ∈ h.links) (components : List (List Point)) :
    FailsOnly h.Refusal (h.lookUp components) := by
  rw [lookUp]
  refine ((checkPathName_misfit 0 _).mono fun _ => .misfit).bind fun _ => ?_
  split
  · exact .error (.circle hlink _)
  · exact .ok _

/-- A way is refused for a name on it or a link. -/
theorem walk_refusal (components : List (List Point)) :
    ∀ places : List (List Point), FailsOnly h.Refusal (h.walk places components) := by
  induction components with
  | nil => exact fun places => .ok _
  | cons component rest ih =>
    intro places
    rw [walk]
    split
    · exact ih _
    · split
      · rename_i f hcheck
        exact .error (.misfit (checkPathName_misfit _ _ f hcheck))
      · split
        · exact ih _
        · exact ih _
        · rename_i way hlink
          obtain ⟨path, hmem⟩ := mem_of_link? hlink
          exact lookUp_refusal hmem _
        · rename_i f hlink
          obtain ⟨path, hmem⟩ := mem_of_link? hlink
          exact .error (.unreadable hmem)

/-- A location that leads nowhere is refused for what stands in it or for a link. -/
theorem resolve_refusal (location : List Point) : FailsOnly h.Refusal (h.resolve location) := by
  rw [resolve_eq]
  exact ((expanded_misfit location).mono fun _ => .misfit).bind fun ps => walk_refusal _ _

end Host

end CommandConsole
