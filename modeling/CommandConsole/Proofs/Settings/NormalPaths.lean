import CommandConsole.Proofs.Settings.Accepted
import CommandConsole.Proofs.Settings.SwitchedOff
import CommandConsole.Proofs.Text.Pieces

/-!
# Paths in normal form

A location is gone through component by component from the root. Every step leaves proper components behind
(`step_proper`), so the path that a location leads to is in normal form (`pathOf_normal`), whatever the homes and the
variables in it stand for. And no step but that of two dots goes back (`step_suffix`), so a location without it that does
not begin at the root leads to the working directory or below it. So it is with every value of a setting that is a path
(`configured_paths_normal`), but for integers that are too long to be written and texts with surrogates that stand for no
byte (`unfit_values_lead_nowhere`).
-/

namespace CommandConsole

/-- A component of a path in normal form. -/
structure IsProper {α : Type} (mark : Char → α) (component : List α) : Prop where
  filled : component ≠ []
  noDot : component ≠ [mark '.']
  noDots : component ≠ [mark '.', mark '.']
  noSlash : mark '/' ∉ component

/-- A path begins with a slash and has proper components behind it, with a slash between any two: no slash is repeated,
and none is at the end but that of the root. -/
def IsNormal (path : String) : Prop :=
  path = "/" ∨
    ∃ components, components ≠ [] ∧ piecesAt '/' path.toList = [] :: components ∧ ∀ c ∈ components, IsProper id c

/-- A slash or a dot is shown only where there is one. -/
theorem Point.shown_eq_iff {p : Point} {c : Char} (hc : c ≠ '\uFFFD') : p.shown = c ↔ p = .char c := by
  cases p with
  | char d => simp [Point.shown]
  | lone offset => simp [Point.shown, hc.symm]

/-- A proper component is proper where it is shown. -/
theorem IsProper.shown {component : List Point} (h : IsProper .char component) :
    IsProper id (component.map Point.shown) where
  filled := by simpa using h.filled
  noDot hdot := by
    obtain ⟨p, rfl, hp⟩ := List.map_eq_singleton_iff.mp hdot
    obtain rfl := (Point.shown_eq_iff (by decide)).mp hp
    exact h.noDot rfl
  noDots hdots := by
    obtain ⟨p, ps, rfl, hp, hps⟩ := List.map_eq_cons_iff.mp hdots
    obtain ⟨q, rfl, hq⟩ := List.map_eq_singleton_iff.mp hps
    obtain rfl := (Point.shown_eq_iff (by decide)).mp hp
    obtain rfl := (Point.shown_eq_iff (by decide)).mp hq
    exact h.noDots rfl
  noSlash hslash := by
    obtain ⟨p, hp, hshown⟩ := List.mem_map.mp hslash
    exact h.noSlash ((Point.shown_eq_iff (by decide)).mp hshown ▸ hp)

/-- A proper component is proper by its code points. -/
theorem IsProper.points {component : List Char} (h : IsProper id component) :
    IsProper .char (component.map Point.char) := by
  have hinj : Function.Injective (List.map Point.char) := List.map_injective_iff.mpr fun _ _ => Point.char.inj
  constructor
  · exact fun heq => h.filled (hinj heq)
  · exact fun heq => h.noDot (hinj heq)
  · exact fun heq => h.noDots (hinj heq)
  · exact fun hslash => h.noSlash ((List.mem_map_of_injective fun _ _ => Point.char.inj).mp hslash)

namespace Host

variable {h : Host} {places components : List (List Point)} {ps : List Point}

/-! ## Steps -/

/-- A step leaves proper components behind. -/
theorem step_proper (hplaces : ∀ c ∈ places, IsProper .char c) {component : List Point}
    (hslash : .char '/' ∉ component) : ∀ c ∈ step places component, IsProper .char c := by
  rw [step]
  split
  · exact hplaces
  · rename_i hdot
    rw [not_or] at hdot
    split
    · exact fun c hc => hplaces c (List.mem_of_mem_tail hc)
    · rename_i hdots
      exact List.forall_mem_cons.mpr ⟨⟨hdot.1, hdot.2, hdots, hslash⟩, hplaces⟩

/-- A step does not go back, but for two dots. -/
theorem step_suffix (places : List (List Point)) {component : List Point} (hdots : component ≠ [.char '.', .char '.']) :
    places <:+ step places component := by
  rw [step, if_neg hdots]
  split
  · exact List.suffix_rfl
  · exact List.suffix_cons _ _

/-- A step to a proper component goes there. -/
theorem step_of_proper (places : List (List Point)) {component : List Point} (hproper : IsProper .char component) :
    step places component = component :: places := by
  rw [step, if_neg (by simp [hproper.filled, hproper.noDot]), if_neg hproper.noDots]

/-! ## Walks -/

/-- A walk leaves proper components behind. -/
theorem steps_proper (hplaces : ∀ c ∈ places, IsProper .char c) (hslash : ∀ c ∈ components, .char '/' ∉ c) :
    ∀ c ∈ components.foldl step places, IsProper .char c := by
  induction components generalizing places with
  | nil => exact hplaces
  | cons component components ih =>
    rw [List.forall_mem_cons] at hslash
    exact ih (step_proper hplaces hslash.1) hslash.2

/-- A walk without two dots does not go back. -/
theorem steps_suffix (places : List (List Point)) (hdots : [.char '.', .char '.'] ∉ components) :
    places <:+ components.foldl step places := by
  induction components generalizing places with
  | nil => exact List.suffix_rfl
  | cons component components ih =>
    rw [List.mem_cons, not_or] at hdots
    exact (step_suffix places (Ne.symm hdots.1)).trans (ih _ hdots.2)

/-- A walk along proper components goes there. -/
theorem steps_of_proper (places : List (List Point)) (hproper : ∀ c ∈ components, IsProper .char c) :
    components.foldl step places = components.reverse ++ places := by
  induction components generalizing places with
  | nil => rfl
  | cons component components ih =>
    rw [List.forall_mem_cons] at hproper
    rw [List.foldl_cons, step_of_proper places hproper.1, ih _ hproper.2, List.reverse_cons, List.append_assoc,
      List.singleton_append]

/-- The components of the place that a path leads to without links. -/
def placesOf (ps : List Point) : List (List Point) := ((piecesAt (.char '/') ps).foldl step []).reverse

/-- Without links, a walk along names that the system takes is a walk step by step. -/
theorem walk_of_noLinks (hlinks : h.links = []) (components : List (List Point)) :
    ∀ places, (∀ c ∈ components, Nameable c) →
      h.walk places components = .ok (pathOf (components.foldl step places).reverse) := by
  induction components with
  | nil => exact fun _ _ => rfl
  | cons component rest ih =>
    intro places hnames
    rw [List.forall_mem_cons] at hnames
    rw [walk, List.foldl_cons]
    split
    · exact ih _ hnames.2
    · rename_i hmove
      have hlink : h.link? (component :: places) = none := by rw [link?, hlinks]; rfl
      have hplace : step places component = component :: places := by
        simp only [isMove, List.mem_cons, List.not_mem_nil, or_false, Bool.decide_or, Bool.or_eq_true,
          decide_eq_true_eq, not_or] at hmove
        rw [step, if_neg (not_or.mpr ⟨hmove.1, hmove.2.1⟩), if_neg hmove.2.2]
      rw [checkPathName_eq_ok.mpr hnames.1, hlink, hplace]
      exact ih _ hnames.2

/-- The components that a path leads to are proper. -/
theorem placesOf_proper (ps : List Point) : ∀ c ∈ placesOf ps, IsProper .char c := by
  have hslash : ∀ c ∈ piecesAt (.char '/') ps, .char '/' ∉ c := fun c hc => not_mem_of_mem_piecesAt hc
  intro c hc
  exact steps_proper (List.forall_mem_nil _) hslash c (List.mem_reverse.mp hc)

/-- A path behind another one that has no two dots leads there, or further. -/
theorem placesOf_below (directory : List Point) (hdots : [.char '.', .char '.'] ∉ piecesAt (.char '/') ps) :
    placesOf directory <+: placesOf (directory ++ .char '/' :: ps) := by
  rw [placesOf, placesOf, piecesAt_append, List.foldl_append, List.reverse_prefix]
  exact steps_suffix _ hdots

/-! ## Paths -/

/-- A path that is not the root falls into the components that it was made of, behind its first slash. -/
theorem piecesAt_pathPoints (hne : components ≠ []) (hproper : ∀ c ∈ components, IsProper .char c) :
    piecesAt (.char '/') (pathPoints components) = [] :: components := by
  have hslash : ∀ c ∈ components, .char '/' ∉ c := fun c hc => (hproper c hc).noSlash
  rw [pathPoints, piecesAt, if_pos rfl, piecesAt_intercalate hne hslash]

/-- So does the path that is shown for them. -/
theorem piecesAt_pathOf (hne : components ≠ []) (hproper : ∀ c ∈ components, IsProper .char c) :
    piecesAt '/' (pathOf components).toList = [] :: components.map (·.map Point.shown) := by
  rw [pathOf, shownText, String.toList_ofList, piecesAt_map (.char '/') fun p => Point.shown_eq_iff (by decide),
    piecesAt_pathPoints hne hproper]
  rfl

/-- The path with proper components is in normal form. -/
theorem pathOf_normal (hproper : ∀ c ∈ components, IsProper .char c) : IsNormal (pathOf components) := by
  by_cases hroot : components = []
  · subst hroot
    exact Or.inl rfl
  · refine Or.inr ⟨components.map (·.map Point.shown), by simpa using hroot, piecesAt_pathOf hroot hproper, ?_⟩
    rw [List.forall_mem_map]
    exact fun c hc => (hproper c hc).shown

/-- A path has the components that it was made of, as they are shown. -/
theorem componentsOf_pathOf (hproper : ∀ c ∈ components, IsProper .char c) :
    componentsOf (pathOf components) = components.map (·.map fun p => .char p.shown) := by
  by_cases hroot : components = []
  · subst hroot
    rfl
  · have hpieces : piecesAt (.char '/') (pointsOf (pathOf components)) =
        [] :: components.map (·.map fun p => .char p.shown) := by
      rw [pointsOf, piecesAt_map '/' (by simp), piecesAt_pathOf hroot hproper]
      simp [Function.comp_def]
    have hfilled : ∀ c ∈ components.map (·.map fun p => Point.char p.shown), decide (c ≠ []) = true := by
      rw [List.forall_mem_map]
      exact fun c hc => decide_eq_true (by simpa using (hproper c hc).filled)
    rw [componentsOf, hpieces, List.filter_cons_of_neg (by simp)]
    exact List.filter_eq_self.mpr hfilled

/-- The working directory in normal form. -/
def base (h : Host) : String := pathOf (placesOf (pointsOf h.directory))

/-- A path in normal form leads to itself. -/
theorem pathOf_placesOf {path : String} (hnormal : IsNormal path) : pathOf (placesOf (pointsOf path)) = path := by
  rcases hnormal with rfl | ⟨components, hne, hpieces, hproper⟩
  · rfl
  · have hpoints : piecesAt (.char '/') (pointsOf path) = [] :: components.map (·.map .char) := by
      rw [pointsOf, piecesAt_map '/' (by simp), hpieces]
      rfl
    have hproper : ∀ c ∈ components.map (·.map Point.char), IsProper .char c := by
      rw [List.forall_mem_map]
      exact fun c hc => (hproper c hc).points
    have hpath : pathPoints (components.map (·.map Point.char)) = pointsOf path := by
      rw [← intercalate_piecesAt (.char '/') (pointsOf path), hpoints]
      obtain ⟨first, rest, rfl⟩ := List.exists_cons_of_ne_nil hne
      rw [List.map_cons, List.intercalate_cons_cons]
      rfl
    rw [placesOf, hpoints, List.foldl_cons, step, if_pos (Or.inl rfl), steps_of_proper [] hproper, List.append_nil,
      List.reverse_reverse, pathOf, hpath, shownText_pointsOf]

/-- A location begins below the working directory, and nowhere goes back. -/
def StaysBelow (ps : List Point) : Prop :=
  ps.head? ≠ some (.char '/') ∧ [.char '.', .char '.'] ∉ piecesAt (.char '/') ps

/-- Without links, a location that the system takes leads to a path in normal form, and it is the working directory or lies
below it if the location stays there. -/
theorem NullFree.resolve_normal (hn : h.NullFree) (hlinks : h.links = []) {location : List Point}
    (hexpanded : h.expanded location = .ok ps) (hps : Nameable ps) :
    ∃ path, h.resolve location = .ok path ∧ IsNormal path ∧
      (StaysBelow ps → componentsOf h.base <+: componentsOf path) := by
  refine ⟨pathOf (placesOf (h.wholePath ps)), ?_, pathOf_normal (placesOf_proper _), fun hbelow => ?_⟩
  · rw [resolve_eq, hexpanded]
    exact walk_of_noLinks hlinks _ [] (hn.wholePath hps)
  · rw [base, componentsOf_pathOf (placesOf_proper _), componentsOf_pathOf (placesOf_proper _), Host.wholePath,
      if_neg hbelow.1]
    exact (placesOf_below _ hbelow.2).map _

end Host

namespace Settings

variable {h : Host} {v : Value}

/-- **Paths are absolute and in normal form.** Without links and null characters, a value that is a path leads somewhere,
unless it cannot be written or a surrogate in it stands for no byte. Exactly nothing at all, blank texts and the word `none`
in any case and between any blanks switch the path off. Otherwise it is in normal form, and what stays below the working
directory leads there or below it; that directory is as it is given, if it is given in normal form. A console has these
paths. -/
theorem configured_paths_normal (hlinks : h.links = []) (hnull : h.NullFree) (hwritable : Value.isWritable v = true)
    (hnames : Nameable v.points) :
    ∃ ps path?, h.expanded v.points = .ok ps ∧ path h v = .ok path? ∧
      (path? = none ↔ v = .null ∨ ∃ t, v = .string t ∧ IsOff t) ∧
      (∀ p, path? = some p →
        IsNormal p ∧ (Host.StaysBelow ps → Host.componentsOf h.base <+: Host.componentsOf p)) ∧
      IsNormal h.base ∧ (IsNormal h.directory → h.base = h.directory) ∧
      ∀ entries s, build h entries = .ok s →
        (settingOf entries "HISTORY_DB_PATH" = v → s.historyPath = path?) ∧
        (settingOf entries "LOG_FILE_PATH" = v → s.logPath = path?) := by
  obtain ⟨ps, hexpanded, hps⟩ := hnull.expanded_ok hnames
  obtain ⟨p, hresolve, hnormal⟩ := hnull.resolve_normal hlinks hexpanded hps
  obtain ⟨path?, hpath⟩ : ∃ path?, path h v = .ok path? :=
    exists_path.mpr ⟨v.text, Value.written_eq_ok.mpr ⟨hwritable, rfl⟩, Or.inr ⟨p, hresolve⟩⟩
  have hchecked := hpath
  rw [path_eq, checked_eq_ok] at hchecked
  obtain ⟨t, ht, hcases⟩ := hchecked
  obtain ⟨-, rfl⟩ := Value.written_eq_ok.mp ht
  refine ⟨ps, path?, hexpanded, hpath, ?_, fun q hq => ?_, Host.pathOf_normal (Host.placesOf_proper _),
    Host.pathOf_placesOf, fun entries s hs => ⟨fun hv => ?_, fun hv => ?_⟩⟩
  · rw [← isOff_text_iff]
    rcases hcases with ⟨hoff, hnone⟩ | ⟨hon, p, -, hsome⟩
    · exact iff_of_true hnone hoff
    · exact iff_of_false (by simp [hsome]) hon
  · rcases hcases with ⟨-, hnone⟩ | ⟨-, r, hagain, hsome⟩
    · rw [hnone] at hq
      cases hq
    · rw [hsome] at hq
      cases hq
      rw [hresolve] at hagain
      cases hagain
      exact hnormal
  · have hbuilt := (build_eq_ok.mp hs).historyPath
    rw [hv, hpath] at hbuilt
    exact (Except.ok.inj hbuilt).symm
  · have hbuilt := (build_eq_ok.mp hs).logPath
    rw [hv, hpath] at hbuilt
    exact (Except.ok.inj hbuilt).symm

namespace Wandering

/-- A working directory that is not in normal form, and variables with slashes and dots in them. -/
def host : Host where
  environment := [("HOME", "/home/user//"), ("UP", "../..//"), ("HERE", "./")]
  home := "/"
  directory := "/srv/../work//here/"

/-- A location that begins at home and goes back further than to the root. -/
def back : Value := .string "~/$UP/../\x24\x7bUP\x7d/etc/./x/"

/-- A location below the working directory. -/
def below : Value := .string "$HERE/logs//$NONE/.x"

/-- The first integer that is not written. -/
def long : Value := .int (Nat.pow 10 maxDigits : Nat)

/-- A location with a surrogate that stands for no byte, behind one that does. -/
def stray : Value := .ragged ⟨[.char 'x', .ofNat 0xDC80, .ofNat 0xD800], rfl⟩

theorem host_nullFree : host.NullFree := by
  constructor <;> decide

end Wandering

open Wandering in
/-- Locations that wander about lead to paths in normal form. -/
theorem configured_paths_normal_wandering :
    path host back = .ok (some "/etc/x") ∧ IsNormal "/etc/x" ∧
      path host below = .ok (some "/work/here/logs/$NONE/.x") ∧ IsNormal "/work/here/logs/$NONE/.x" ∧
      host.base = "/work/here" ∧ Host.componentsOf host.base <+: Host.componentsOf "/work/here/logs/$NONE/.x" ∧
      path host (.string "\tNONE ") = .ok none := by
  have hback : path host back = .ok (some "/etc/x") := by decide +kernel
  have hbelow : path host below = .ok (some "/work/here/logs/$NONE/.x") := by decide +kernel
  have hplace : host.expanded (Value.points below) = .ok (pointsOf ".//logs//$NONE/.x") := by decide +kernel
  have hstays : Host.StaysBelow (pointsOf ".//logs//$NONE/.x") := ⟨by decide +kernel, by decide +kernel⟩
  obtain ⟨_, _, -, hfirst, -, hnormal, -⟩ :=
    configured_paths_normal (h := host) (v := back) rfl host_nullFree rfl (by decide +kernel)
  obtain ⟨_, _, hexpanded, hsecond, -, hunder, -⟩ :=
    configured_paths_normal (h := host) (v := below) rfl host_nullFree rfl (by decide +kernel)
  obtain ⟨_, _, -, hthird, hoff, -⟩ :=
    configured_paths_normal (h := host) (v := .string "\tNONE ") rfl host_nullFree rfl (by decide +kernel)
  rw [hback] at hfirst
  rw [hbelow] at hsecond
  rw [hplace] at hexpanded
  cases hexpanded
  obtain ⟨hetc, -⟩ := hnormal _ (Except.ok.inj hfirst).symm
  obtain ⟨hlogs, hin⟩ := hunder _ (Except.ok.inj hsecond).symm
  have hnone := hoff.mpr (Or.inr ⟨_, rfl, by decide +kernel⟩)
  rw [hnone] at hthird
  exact ⟨hback, hetc, hbelow, hlogs, by decide +kernel, hin hstays, hthird⟩

/-- An integer with more digits than are written is not written. -/
theorem isWritable_of_long {n : Nat} (h : Nat.pow 10 maxDigits ≤ n) : Value.isWritable (.int n) = false := by
  rw [← Bool.not_eq_true, Value.isWritable_int, Int.natAbs_natCast]
  exact Nat.not_lt.mpr h

open Wandering in
/-- Without links and null characters, an integer that is too long to be written leads nowhere, nor does a text with a
surrogate that stands for no byte. -/
theorem unfit_values_lead_nowhere :
    host.links = [] ∧ host.NullFree ∧ .char '\x00' ∉ Value.points long ∧ .char '\x00' ∉ Value.points stray ∧
      (∀ path?, path host long ≠ .ok path?) ∧
      path host stray =
        .error ⟨.encoding, "'utf-8' codec can't encode character '\\ud800' in position 13: surrogates not allowed"⟩ := by
  have hlong : Value.isWritable long = false := isWritable_of_long (Nat.le_refl _)
  have hdigits : '\x00' ∉ long.text.toList := not_mem_toString_int (by decide) (by decide) _
  refine ⟨rfl, host_nullFree, fun hmem => ?_, by decide, fun path? hpath => ?_, by decide +kernel⟩
  · obtain ⟨c, hc, hnull⟩ := List.mem_map.mp hmem
    cases hnull
    exact hdigits hc
  · obtain ⟨t, ht, -⟩ := exists_path.mp ⟨path?, hpath⟩
    exact Value.written_ne_ok hlong t ht

end Settings

end CommandConsole
