import CommandConsole.Proofs.Settings.Reading
import CommandConsole.Proofs.Text.Lines

/-!
# Sections and defaults

Sections only group options, so the last section that sets a setting should decide it, and a default should count only
where none does. But all options of every section are read, and those that it has by default are among them. So a default
comes back over an earlier section that sets the setting itself, as soon as another section follows, whatever that is about
(`sections_group_but_for_defaults`). Only what has no default is as it should be.

No option appears twice in a section (`Document.Distinct`). Still two options may stand for one setting, as their names
may have the same upper case; then the later one counts.
-/

namespace CommandConsole.Ini

/-! ## Options under their names -/

variable {α : Type} {key : String} {f : Option α → α} {l : List (String × α)}

/-- Changing a key changes no other one, and adds it at the end if it is not there. -/
theorem keys_alter (key : String) (f : Option α → α) (l : List (String × α)) :
    (alter key f l).map (·.1) = if key ∈ l.map (·.1) then l.map (·.1) else l.map (·.1) ++ [key] := by
  induction l with
  | nil => rfl
  | cons e l ih =>
    obtain ⟨k, a⟩ := e
    rw [alter]
    by_cases hk : k = key
    · simp [hk]
    · rw [if_neg hk, List.map_cons, List.map_cons, ih]
      simp only [List.mem_cons, Ne.symm hk, false_or]
      split <;> rfl

/-- The keys after a change are those from before and the one that is changed. -/
theorem mem_keys_alter {name : String} :
    name ∈ (alter key f l).map (·.1) ↔ name ∈ l.map (·.1) ∨ name = key := by
  rw [keys_alter]
  split
  · rename_i hmem
    rw [or_iff_left_of_imp (b := name = key) (fun heq => heq ▸ hmem)]
  · rw [List.mem_append, List.mem_singleton]

/-- No key is there twice after one has been changed. -/
theorem alter_nodup (h : (l.map (·.1)).Nodup) (key : String) (f : Option α → α) :
    ((alter key f l).map (·.1)).Nodup := by
  rw [keys_alter]
  split
  · exact h
  · rename_i hnew
    rw [← List.concat_eq_append]
    exact h.concat hnew

/-- What holds of all values, and is kept by a change, holds after it. -/
theorem forall_alter {P : α → Prop} (hnew : P (f none)) (hkept : ∀ a, P a → P (f (some a))) (h : ∀ e ∈ l, P e.2) :
    ∀ e ∈ alter key f l, P e.2 := by
  induction l with
  | nil => simpa [alter] using hnew
  | cons e l ih =>
    obtain ⟨k, a⟩ := e
    rw [List.forall_mem_cons] at h
    rw [alter]
    split
    · exact List.forall_mem_cons.mpr ⟨hkept a h.1, h.2⟩
    · exact List.forall_mem_cons.mpr ⟨h.1, ih h.2⟩

/-! ## Distinct options -/

/-- No option is there twice in the defaults, nor in a section. -/
structure Reading.Distinct (r : Reading) : Prop where
  defaults : (r.defaults.map (·.1)).Nodup
  sections : ∀ s ∈ r.sections, (s.2.map (·.1)).Nodup

namespace Reading.Distinct

variable {r r' : Reading}

theorem alterOptions (h : r.Distinct) (p : Place) (name : String) (f : Option (List String) → List String) :
    (r.alterOptions p (alter name f)).Distinct := by
  cases p with
  | defaults => exact ⟨alter_nodup h.defaults name f, h.sections⟩
  | «section» place =>
    have hempty : (([] : Options).map (·.1)).Nodup := List.nodup_nil
    refine ⟨h.defaults, fun s hs => ?_⟩
    exact forall_alter (P := fun o => (o.map (·.1)).Nodup) (alter_nodup hempty name f)
      (fun o ho => alter_nodup ho name f) h.sections s hs

theorem continueValue (h : r.Distinct) (line : String) : (r.continueValue line).Distinct := by
  rw [Reading.continueValue]
  split
  · exact h.alterOptions _ _ _
  · exact h

theorem openSection (h : r.Distinct) {name : String} (hr : r.openSection name = some r') : r'.Distinct := by
  rw [Reading.openSection] at hr
  split at hr
  · cases hr
    exact ⟨h.defaults, h.sections⟩
  · split at hr
    · cases hr
    · cases hr
      refine ⟨h.defaults, List.forall_mem_append.mpr ⟨h.sections, ?_⟩⟩
      exact List.forall_mem_singleton.mpr List.nodup_nil

theorem addOption (h : r.Distinct) {p : Place} {name value : String} (hr : r.addOption p name value = some r') :
    r'.Distinct := by
  rw [Reading.addOption] at hr
  split at hr
  · cases hr
  · cases hr
    have haltered := h.alterOptions p name fun _ => [value]
    exact ⟨haltered.defaults, haltered.sections⟩

theorem readElement (h : r.Distinct) {line : List Char} (hr : readElement r line = some r') : r'.Distinct := by
  rw [Ini.readElement] at hr
  split at hr
  · exact h.openSection hr
  · split at hr
    · cases hr
    · split at hr
      · exact h.addOption hr
      · cases hr
        exact ⟨h.defaults, h.sections⟩

/-- A line keeps the options distinct. -/
theorem readLine (h : r.Distinct) {line : List Char} (hr : readLine r line = some r') : r'.Distinct := by
  rw [Ini.readLine] at hr
  split at hr
  · cases hr
    exact h.continueValue ""
  · split at hr
    · cases hr
      exact h
    · dsimp only at hr
      split at hr
      · cases hr
        exact h.continueValue _
      · have hindented : Reading.Distinct { r with indent := (line.takeWhile isBlank).length } :=
          ⟨h.defaults, h.sections⟩
        exact hindented.readElement hr

/-- Many lines keep the options distinct. -/
theorem readLines (h : r.Distinct) {lines : List (List Char)} (hr : lines.foldlM Ini.readLine r = some r') :
    r'.Distinct := by
  induction lines generalizing r with
  | nil =>
    cases hr
    exact h
  | cons line lines ih =>
    rw [List.foldlM_cons, Option.bind_eq_bind, Option.bind_eq_some_iff] at hr
    obtain ⟨between, hline, hlines⟩ := hr
    exact ih (h.readLine hline) hlines

end Reading.Distinct

/-- No option is there twice in the defaults, nor in a section. -/
structure Document.Distinct (d : Document) : Prop where
  defaults : (d.defaults.map (·.1)).Nodup
  sections : ∀ s ∈ d.sections, (s.2.map (·.1)).Nodup

theorem Options.keys_joined (o : Options) : (Options.joined o).map (·.1) = o.map (·.1) := by
  rw [Options.joined, List.map_map]
  rfl

/-- The options of a file that is read are distinct. -/
theorem distinct_of_parse {cs : List Char} {d : Document} (h : parse cs = some d) : d.Distinct := by
  rw [parse, Option.bind_eq_bind, Option.bind_eq_some_iff] at h
  obtain ⟨r, hr, hd⟩ := h
  have hempty : Reading.Distinct {} := ⟨List.nodup_nil, List.forall_mem_nil _⟩
  have hdistinct := hempty.readLines hr
  split at hd
  · cases hd
  · cases hd
    constructor
    · rw [Options.keys_joined]
      exact hdistinct.defaults
    · intro s hs
      obtain ⟨⟨name, o⟩, ho, rfl⟩ := List.mem_map.mp hs
      rw [Options.keys_joined]
      exact hdistinct.sections _ ho

/-! ## The value of a setting -/

/-- The value that options give to a setting; the last one that stands for it counts. -/
def valueOf (setting : String) (options : List (String × String)) : Option String :=
  options.reverse.findSome? fun (name, value) => if upperCase name = setting then some value else none

variable {setting : String} {all own : List (String × String)}

theorem valueOf_append (options more : List (String × String)) :
    valueOf setting (options ++ more) = (valueOf setting more).or (valueOf setting options) := by
  rw [valueOf, List.reverse_append, List.findSome?_append]
  rfl

theorem valueOf_cons (o : String × String) (options : List (String × String)) :
    valueOf setting (o :: options) =
      (valueOf setting options).or (if upperCase o.1 = setting then some o.2 else none) := by
  have hsingle : valueOf setting [o] = if upperCase o.1 = setting then some o.2 else none := by simp [valueOf]
  rw [← List.singleton_append, valueOf_append, hsingle]

/-- Options say nothing of a setting exactly if none of them stands for it. -/
theorem valueOf_eq_none_iff {options : List (String × String)} :
    valueOf setting options = none ↔ ∀ name ∈ options.map (·.1), upperCase name ≠ setting := by
  simp [valueOf]

/-- Of options that are one list after the other, the last list that gives a value to a setting counts. -/
theorem valueOf_flatMap {β : Type} (options : β → List (String × String)) (l : List β) :
    valueOf setting (l.flatMap options) = l.reverse.findSome? fun b => valueOf setting (options b) := by
  induction l with
  | nil => rfl
  | cons b l ih =>
    rw [List.flatMap_cons, valueOf_append, ih, List.reverse_cons, List.findSome?_append, List.findSome?_singleton]

/-- If an option stands for a setting, none does so behind it, wherever it is already. -/
def IsLast (setting name : String) (all : List (String × String)) : Prop :=
  upperCase name = setting → ∀ before old after, all = before ++ (name, old) :: after → valueOf setting after = none

/-- Setting an option gives its value to the setting it stands for, unless another one behind it does so too. -/
theorem valueOf_alter {name : String} (value : String) (hlast : IsLast setting name all) :
    valueOf setting (alter name (fun _ => value) all) =
      if upperCase name = setting then some value else valueOf setting all := by
  induction all with
  | nil =>
    simp [alter, valueOf]
  | cons o all ih =>
    obtain ⟨k, old⟩ := o
    rw [alter]
    by_cases hk : k = name
    · subst hk
      rw [if_pos rfl, valueOf_cons, valueOf_cons]
      by_cases hname : upperCase k = setting
      · simp [hname, hlast hname [] old all rfl]
      · simp [hname]
    · rw [if_neg hk, valueOf_cons, valueOf_cons, ih]
      · split <;> rfl
      · rintro hname before older after rfl
        exact hlast hname ((k, old) :: before) older after rfl

/-- The options that a section has, on top of some that are there. -/
def overlay (all own : List (String × String)) : List (String × String) :=
  own.foldl (fun all (name, value) => alter name (fun _ => value) all) all

theorem overlay_cons (o : String × String) (own : List (String × String)) :
    overlay all (o :: own) = overlay (alter o.1 (fun _ => o.2) all) own := rfl

/-- The options of a section are those that are there and its own. -/
theorem mem_keys_overlay {name : String} :
    name ∈ (overlay all own).map (·.1) ↔ name ∈ all.map (·.1) ∨ name ∈ own.map (·.1) := by
  induction own generalizing all with
  | nil => simp [overlay]
  | cons o own ih => rw [overlay_cons, ih, mem_keys_alter, List.map_cons, List.mem_cons, or_assoc]

/-- If the options behind the first one count before what is there with it, all of them count before what is there. -/
theorem valueOf_overlay_cons {o : String × String} (hlast : IsLast setting o.1 all)
    (hrest : valueOf setting (overlay (alter o.1 (fun _ => o.2) all) own) =
      (valueOf setting own).or (valueOf setting (alter o.1 (fun _ => o.2) all))) :
    valueOf setting (overlay all (o :: own)) = (valueOf setting (o :: own)).or (valueOf setting all) := by
  rw [overlay_cons, hrest, valueOf_alter _ hlast, valueOf_cons, Option.or_assoc]
  split <;> rfl

/-- Where no option for a setting is replaced, the new options count before the old ones. -/
theorem valueOf_overlay_of_new (hown : (own.map (·.1)).Nodup)
    (hnew : ∀ name ∈ own.map (·.1), upperCase name = setting → name ∉ all.map (·.1)) :
    valueOf setting (overlay all own) = (valueOf setting own).or (valueOf setting all) := by
  induction own generalizing all with
  | nil => rfl
  | cons o own ih =>
    rw [List.map_cons, List.nodup_cons] at hown
    rw [List.map_cons, List.forall_mem_cons] at hnew
    have hlast : IsLast setting o.1 all := by
      rintro hstands before old after rfl
      exact absurd (by simp) (hnew.1 hstands)
    refine valueOf_overlay_cons hlast (ih hown.2 fun name hname hstands => ?_)
    rw [mem_keys_alter, not_or]
    exact ⟨hnew.2 name hname hstands, fun heq => hown.1 (heq ▸ hname)⟩

/-- Where all options for a setting have one name, the new one counts before the old one. -/
theorem valueOf_overlay_of_one {only : String} (hall : (all.map (·.1)).Nodup)
    (honly : ∀ name, name ∈ all.map (·.1) ∨ name ∈ own.map (·.1) → upperCase name = setting → name = only) :
    valueOf setting (overlay all own) = (valueOf setting own).or (valueOf setting all) := by
  induction own generalizing all with
  | nil => rfl
  | cons o own ih =>
    rw [List.map_cons] at honly
    have hlast : IsLast setting o.1 all := by
      rintro hstands before old after rfl
      rw [valueOf_eq_none_iff]
      intro name hname hsame
      have hfirst := honly o.1 (Or.inr List.mem_cons_self) hstands
      have hother := honly name (by simp [hname]) hsame
      -- the name would be there twice
      rw [List.map_append, List.map_cons, List.nodup_append, List.nodup_cons, hfirst, ← hother] at hall
      exact hall.2.1.1 hname
    refine valueOf_overlay_cons hlast (ih (alter_nodup hall _ _) fun name hname => honly name ?_)
    rwa [mem_keys_alter, or_assoc, ← List.mem_cons] at hname

/-! ## A file -/

namespace Document

variable {d : Document}

/-- The value of the last section that sets a setting itself. -/
def explicit? (d : Document) (setting : String) : Option String :=
  d.sections.reverse.findSome? fun s => valueOf setting s.2

/-- The value that a setting has by default. -/
def supplied? (d : Document) (setting : String) : Option String := valueOf setting d.defaults

/-- All options that stand for a setting have one name. -/
def OneName (d : Document) (setting : String) : Prop :=
  ∃ only, ∀ o ∈ d.defaults ++ d.sections.flatMap (·.2), upperCase o.1 = setting → o.1 = only

/-- All options of a file give a setting the value that those of the last section give it in which there is one. -/
theorem valueOf_entries (d : Document) (setting : String) :
    valueOf setting d.entries = d.sections.reverse.findSome? fun s => valueOf setting (d.options s.2) :=
  valueOf_flatMap (fun s => d.options s.2) d.sections

/-- Without a default a section gives a setting only what it sets itself. -/
theorem Distinct.valueOf_options (hd : d.Distinct) {s : String × List (String × String)} (hs : s ∈ d.sections)
    (hsupplied : d.supplied? setting = none) : valueOf setting (d.options s.2) = valueOf setting s.2 := by
  have hnew : ∀ name ∈ s.2.map (·.1), upperCase name = setting → name ∉ d.defaults.map (·.1) :=
    fun name _ hstands hmem => valueOf_eq_none_iff.mp hsupplied name hmem hstands
  have hoverlay := valueOf_overlay_of_new (hd.sections s hs) hnew
  rw [← supplied?, hsupplied, Option.or_none] at hoverlay
  exact hoverlay

/-- A section that does not set a setting itself gives it the default. -/
theorem Distinct.valueOf_options_silent (hd : d.Distinct) {s : String × List (String × String)} (hs : s ∈ d.sections)
    (hsilent : valueOf setting s.2 = none) : valueOf setting (d.options s.2) = d.supplied? setting := by
  have hnew : ∀ name ∈ s.2.map (·.1), upperCase name = setting → name ∉ d.defaults.map (·.1) :=
    fun name hmem hstands => absurd hstands (valueOf_eq_none_iff.mp hsilent name hmem)
  have hoverlay := valueOf_overlay_of_new (hd.sections s hs) hnew
  rw [hsilent, Option.none_or] at hoverlay
  exact hoverlay

/-- Where all options for a setting have one name, a section gives it what it sets itself, or else the default. -/
theorem Distinct.valueOf_options_one (hd : d.Distinct) {s : String × List (String × String)} (hs : s ∈ d.sections)
    (hone : d.OneName setting) : valueOf setting (d.options s.2) = (valueOf setting s.2).or (d.supplied? setting) := by
  obtain ⟨only, honly⟩ := hone
  have hnames : ∀ name, name ∈ d.defaults.map (·.1) ∨ name ∈ s.2.map (·.1) →
      upperCase name = setting → name = only := by
    rintro name (hname | hname)
    · obtain ⟨o, ho, rfl⟩ := List.mem_map.mp hname
      exact honly o (List.mem_append_left _ ho)
    · obtain ⟨o, ho, rfl⟩ := List.mem_map.mp hname
      exact honly o (List.mem_append_right _ (List.mem_flatMap.mpr ⟨s, hs, ho⟩))
  exact valueOf_overlay_of_one hd.defaults hnames

/-- A default reaches every section. -/
theorem supplied?_eq_none_of_options {own : List (String × String)} (h : valueOf setting (d.options own) = none) :
    d.supplied? setting = none := by
  rw [supplied?, valueOf_eq_none_iff]
  exact fun name hname => valueOf_eq_none_iff.mp h name (mem_keys_overlay.mpr (Or.inl hname))

/-- Without a default the last section counts that sets a setting itself. -/
theorem Distinct.valueOf_entries_unsupplied (hd : d.Distinct) (hsupplied : d.supplied? setting = none) :
    valueOf setting d.entries = d.explicit? setting := by
  rw [valueOf_entries, explicit?]
  exact Entries.findSome?_congr fun s hs => hd.valueOf_options (List.mem_reverse.mp hs) hsupplied

/-- With a default the last section counts, whether it sets the setting itself or not. -/
theorem valueOf_entries_supplied {last : String × List (String × String)} (hlast : d.sections.getLast? = some last)
    (hsupplied : d.supplied? setting ≠ none) : valueOf setting d.entries = valueOf setting (d.options last.2) := by
  obtain ⟨earlier, hsections⟩ := List.getLast?_eq_some_iff.mp hlast
  rw [valueOf_entries, hsections, List.reverse_append, List.reverse_singleton, List.singleton_append,
    Entries.findSome?_cons_or]
  cases hvalue : valueOf setting (d.options last.2) with
  | none => exact absurd (supplied?_eq_none_of_options hvalue) hsupplied
  | some v => rfl

/-- What no section sets itself has its default, as soon as there is a section. -/
theorem Distinct.valueOf_entries_silent (hd : d.Distinct) (hexplicit : d.explicit? setting = none)
    (hsections : d.sections ≠ []) : valueOf setting d.entries = d.supplied? setting := by
  have hsilent : ∀ s ∈ d.sections, valueOf setting s.2 = none := by
    intro s hs
    exact List.findSome?_eq_none_iff.mp hexplicit s (List.mem_reverse.mpr hs)
  cases hsupplied : d.supplied? setting with
  | none => rw [hd.valueOf_entries_unsupplied hsupplied, hexplicit]
  | some w =>
    have hlast := List.getLast?_eq_some_getLast hsections
    have hmem := List.mem_of_getLast? hlast
    rw [valueOf_entries_supplied hlast (by simp [hsupplied]), hd.valueOf_options_silent hmem (hsilent _ hmem),
      hsupplied]

/-- What the last section sets itself is the last value that a section sets. -/
theorem explicit?_of_last {last : String × List (String × String)} (hlast : d.sections.getLast? = some last)
    {u : String} (hu : valueOf setting last.2 = some u) : d.explicit? setting = some u := by
  obtain ⟨earlier, hsections⟩ := List.getLast?_eq_some_iff.mp hlast
  rw [explicit?, hsections, List.reverse_append, List.reverse_singleton, List.singleton_append,
    Entries.findSome?_cons_or, hu, Option.some_or]

/-- A value that a section sets itself counts, unless the last section does not set it, and there is another default. -/
theorem Distinct.valueOf_entries_explicit (hd : d.Distinct) (hone : d.OneName setting)
    {last : String × List (String × String)} (hlast : d.sections.getLast? = some last) {v : String}
    (hexplicit : d.explicit? setting = some v) :
    valueOf setting d.entries = some v ↔ valueOf setting last.2 ≠ none ∨ ∀ w, d.supplied? setting = some w → w = v := by
  cases hsupplied : d.supplied? setting with
  | none => simp [hd.valueOf_entries_unsupplied hsupplied, hexplicit]
  | some w =>
    rw [valueOf_entries_supplied hlast (by simp [hsupplied]), hd.valueOf_options_one (List.mem_of_getLast? hlast) hone,
      hsupplied]
    cases hown : valueOf setting last.2 with
    | none => simp
    | some u => simp [← hexplicit, explicit?_of_last hlast hown]

end Document

end CommandConsole.Ini

namespace CommandConsole.Settings

open Ini (valueOf)

/-- Under the upper case of its name, an option is found as a text. -/
theorem last?_ofOptions (options : List (String × String)) (setting : String) :
    Entries.last? setting
        ((options.map fun (name, value) => (upperCase name, value)).map fun (name, value) => (name, .string value)) =
      (valueOf setting options).map .string := by
  rw [Entries.last?, valueOf, List.map_map, ← List.map_reverse]
  induction options.reverse with
  | nil => rfl
  | cons o rest ih =>
    rw [List.map_cons, Entries.lookup_cons, ih, Entries.findSome?_cons_or]
    simp only [Function.comp_apply, eq_comm (a := setting)]
    split <;> rfl

/-- The values that are read from a sectioned file. -/
theorem lookup_readIni {bytes : ByteArray} {cs : List Char} {d : Ini.Document} (htext : textOf bytes = some cs)
    (hparse : Ini.parse cs = some d) :
    ∃ entries, readIni bytes = .ok entries ∧
      ∀ setting, entries.lookup setting = (valueOf setting d.entries).map .string := by
  refine ⟨_, rfl, fun setting => ?_⟩
  rw [htext, Option.bind_some, hparse, Option.map_some, Option.getD_some, ofTexts, Entries.lookup_putAll,
    List.lookup_nil, Option.or_none, last?_ofOptions]

/-- **Sections only group, but for defaults.** Of a file without sections nothing is read. A setting that no section sets
itself has its default, and one without a default has the value of the last section that sets it. But one with a default is
as the last section of the file has it, whatever earlier sections set: where options of only one name stand for it, the
value of the last section that sets it counts exactly if this is the last one of the file, or no other value is the default.
-/
theorem sections_group_but_for_defaults {bytes : ByteArray} {cs : List Char} {d : Ini.Document}
    (htext : textOf bytes = some cs) (hparse : Ini.parse cs = some d) :
    ∃ entries, readIni bytes = .ok entries ∧ ∀ setting,
      (d.sections = [] → entries.lookup setting = none) ∧
      (d.explicit? setting = none → d.sections ≠ [] →
        entries.lookup setting = (d.supplied? setting).map .string) ∧
      (d.supplied? setting = none → entries.lookup setting = (d.explicit? setting).map .string) ∧
      ∀ last, d.sections.getLast? = some last →
        (d.supplied? setting ≠ none →
          entries.lookup setting = (valueOf setting (d.options last.2)).map .string) ∧
        (d.OneName setting → ∀ v, d.explicit? setting = some v →
          (entries.lookup setting = some (.string v) ↔
            valueOf setting last.2 ≠ none ∨ ∀ w, d.supplied? setting = some w → w = v)) := by
  have hd := Ini.distinct_of_parse hparse
  obtain ⟨entries, hread, hlookup⟩ := lookup_readIni htext hparse
  refine ⟨entries, hread, fun setting => ⟨fun hnone => ?_, fun hexplicit hsections => ?_, fun hsupplied => ?_,
    fun last hlast => ⟨fun hsupplied => ?_, fun hone v hexplicit => ?_⟩⟩⟩
  · rw [hlookup, Ini.Document.valueOf_entries, hnone]
    rfl
  · rw [hlookup, hd.valueOf_entries_silent hexplicit hsections]
  · rw [hlookup, hd.valueOf_entries_unsupplied hsupplied]
  · rw [hlookup, Ini.Document.valueOf_entries_supplied hlast hsupplied]
  · rw [hlookup, ← hd.valueOf_entries_explicit hone hlast hexplicit]
    simp

namespace Trailing

/-- A section sets the prompt, and the one behind it is about something else. -/
def file : String := "[DEFAULT]\nprompt_symbol = $\n[a]\nprompt_symbol = #\n[b]\nhistory_size = 5\n"

/-- What stands in the file. -/
def document : Ini.Document :=
  ⟨[("prompt_symbol", "$")], [("a", [("prompt_symbol", "#")]), ("b", [("history_size", "5")])]⟩

theorem textOf_file : textOf file.toUTF8 = some file.toList := by
  rw [textOf_toUTF8, unifyNewlines_eq_self (by decide)]

theorem parse_file : Ini.parse file.toList = some document := by
  have hparts : (Ini.parse file.toList).map (fun d => (d.defaults, d.sections)) =
      some (document.defaults, document.sections) := by
    decide +kernel
  obtain ⟨d, hd, hsame⟩ := Option.map_eq_some_iff.mp hparts
  obtain ⟨defaults, sections⟩ := d
  cases hsame
  exact hd

end Trailing

open Trailing in
/-- The prompt is the default, although a section sets it; the size of the history has none, and is as it is set. -/
theorem sections_group_but_for_defaults_trailing :
    ∃ entries, readIni file.toUTF8 = .ok entries ∧ entries.lookup "PROMPT_SYMBOL" = some (.string "$") ∧
      entries.lookup "HISTORY_SIZE" = some (.string "5") ∧ entries.lookup "PROMPT_SYMBOL" ≠ some (.string "#") := by
  obtain ⟨entries, hread, hentries⟩ := sections_group_but_for_defaults textOf_file parse_file
  have hone : document.OneName "PROMPT_SYMBOL" := ⟨"prompt_symbol", by decide +kernel⟩
  have hlast : document.sections.getLast? = some ("b", [("history_size", "5")]) := rfl
  obtain ⟨-, -, -, hprompt⟩ := hentries "PROMPT_SYMBOL"
  obtain ⟨-, -, hsize, -⟩ := hentries "HISTORY_SIZE"
  refine ⟨entries, hread, ?_, ?_, ?_⟩
  · rw [(hprompt _ hlast).1 (by decide +kernel)]
    have hvalue : valueOf "PROMPT_SYMBOL" (document.options [("history_size", "5")]) = some "$" := by decide +kernel
    rw [hvalue, Option.map_some]
  · have hvalue : document.explicit? "HISTORY_SIZE" = some "5" := by decide +kernel
    rw [hsize (by decide +kernel), hvalue, Option.map_some]
  · rw [Ne, (hprompt _ hlast).2 hone "#" (by decide +kernel)]
    decide +kernel

open Trailing in
/-- Not in every file the value counts that a section sets itself. -/
theorem explicit_option_overridden :
    ¬ ∀ (bytes : ByteArray) (cs : List Char) (d : Ini.Document), textOf bytes = some cs → Ini.parse cs = some d →
      ∀ entries, readIni bytes = .ok entries → ∀ setting v, d.explicit? setting = some v →
        entries.lookup setting = some (.string v) := by
  intro hclaim
  obtain ⟨entries, hread, hlookup⟩ := lookup_readIni textOf_file parse_file
  have hvalue : valueOf "PROMPT_SYMBOL" document.entries = some "$" := by decide +kernel
  have hexplicit : document.explicit? "PROMPT_SYMBOL" = some "#" := by decide +kernel
  have hset := hclaim _ _ _ textOf_file parse_file entries hread _ _ hexplicit
  rw [hlookup, hvalue] at hset
  simp at hset

end CommandConsole.Settings
