import CommandConsole.Proofs.History.Run
import CommandConsole.Proofs.Settings.Coercion
import CommandConsole.Proofs.Settings.Location
import CommandConsole.Proofs.Settings.Precedence

/-!
# Settings that are accepted

A console is built exactly of those values of which each one meets the condition of its setting (`conditions`). What is
built of them is valid, and no entry is lost (`Valid`); everything else is refused as a bad value. Both directions are
said together by `valid_values_accepted`.
-/

namespace CommandConsole.Settings

variable {h : Host} {entries : Entries} {s : Settings}

/-! ## All settings at once -/

/-- Each setting of a console is what the entries give to it, and all other entries are kept. -/
structure BuiltOf (h : Host) (entries : Entries) (s : Settings) : Prop where
  promptSymbol : requiredText "PROMPT_SYMBOL" (settingOf entries "PROMPT_SYMBOL") = .ok s.promptSymbol
  welcome : greeting (settingOf entries "WELCOME_MESSAGE") = .ok s.welcome
  historySize : size (settingOf entries "HISTORY_SIZE") = .ok s.historySize
  historyKey : requiredText "HISTORY_KEY" (settingOf entries "HISTORY_KEY") = .ok s.historyKey
  pluginPackage : package (settingOf entries "PLUGIN_PACKAGE") = .ok s.pluginPackage
  logLevel : level (settingOf entries "LOG_LEVEL") = .ok s.logLevel
  historyPath : path h (settingOf entries "HISTORY_DB_PATH") = .ok s.historyPath
  completes : switch (settingOf entries "ENABLE_COMPLETION") = .ok s.completes
  showsBootSteps : switch (settingOf entries "SHOW_BOOT_STEPS") = .ok s.showsBootSteps
  logPath : path h (settingOf entries "LOG_FILE_PATH") = .ok s.logPath
  extra : s.extra = entries.filter fun (name, _) => name ∉ names

theorem build_eq_ok : build h entries = .ok s ↔ BuiltOf h entries s := by
  constructor
  · intro hbuilt
    simp only [build, bind_eq_ok, defaults_lookup_isNone] at hbuilt
    obtain ⟨_, hprompt, _, hwelcome, _, hsize, _, hkey, _, hpackage, _, hlevel, _, hhistory, _, hcompletes, _, hsteps, _,
      hlog, hs⟩ := hbuilt
    cases hs
    exact ⟨hprompt, hwelcome, hsize, hkey, hpackage, hlevel, hhistory, hcompletes, hsteps, hlog, rfl⟩
  · rintro ⟨hprompt, hwelcome, hsize, hkey, hpackage, hlevel, hhistory, hcompletes, hsteps, hlog, hextra⟩
    simp only [build, bind_eq_ok, defaults_lookup_isNone]
    refine ⟨_, hprompt, _, hwelcome, _, hsize, _, hkey, _, hpackage, _, hlevel, _, hhistory, _, hcompletes, _, hsteps, _,
      hlog, ?_⟩
    rw [← hextra]
    rfl

/-- Whatever is wrong with the settings is a bad value, or a location that leads nowhere. -/
theorem build_onlyRefusals (h : Host) (entries : Entries) : OnlyRefusals h (build h entries) := by
  refine ((requiredText_onlyBadValues _ _).refusals h).bind fun promptSymbol => ?_
  refine ((greeting_onlyBadValues _).refusals h).bind fun welcome => ?_
  refine ((size_onlyBadValues _).refusals h).bind fun historySize => ?_
  refine ((requiredText_onlyBadValues _ _).refusals h).bind fun historyKey => ?_
  refine ((package_onlyBadValues _).refusals h).bind fun pluginPackage => ?_
  refine ((level_onlyBadValues _).refusals h).bind fun logLevel => ?_
  refine (path_onlyRefusals h _).bind fun historyPath => ?_
  refine ((switch_onlyBadValues _).refusals h).bind fun completes => ?_
  refine ((switch_onlyBadValues _).refusals h).bind fun showsBootSteps => ?_
  refine (path_onlyRefusals h _).bind fun logPath => ?_
  exact .ok _

/-! ## Conditions -/

/-- A value has a text that does not switch a setting off. -/
def IsGiven (v : Value) : Prop := ∃ t, Value.written v = .ok t ∧ ¬ IsOff t

/-- A value has a text that switches a setting off, or else is as it should be. -/
def IsOffOr (fits : String → Prop) (v : Value) : Prop := ∃ t, Value.written v = .ok t ∧ (IsOff t ∨ fits t)

/-- A value has a text that is a word for a position of a switch, in any case and between any blanks. -/
def SwitchesTo (v : Value) (b : Bool) : Prop :=
  ∃ t, Value.written v = .ok t ∧ (lowerCase (strip t), b) ∈ switchWords

/-- The form of a package name: a letter or an underscore, then word characters and dots. -/
def HasNameForm (t : String) : Prop :=
  ∃ first rest, t.toList = first :: rest ∧ (first.isAlpha = true ∨ first = '_') ∧
    ∀ c ∈ rest, isWordChar c = true ∨ c = '.'

/-- The location that a value is leads somewhere, unless it is switched off. -/
def LeadsOrOff (h : Host) (v : Value) : Prop := IsOffOr (fun _ => ∃ p, h.resolve v.points = .ok p) v

/-- What the value of each of the ten settings must be like. -/
def conditions (h : Host) : List (String × (Value → Prop)) :=
  [("PROMPT_SYMBOL", IsGiven),
   ("WELCOME_MESSAGE", fun v => ∃ t, Value.written v = .ok t),
   ("HISTORY_SIZE", fun v => ∃ n, Spells v n ∧ 1 ≤ n),
   ("HISTORY_KEY", IsGiven),
   ("HISTORY_DB_PATH", LeadsOrOff h),
   ("PLUGIN_PACKAGE", IsOffOr HasNameForm),
   ("ENABLE_COMPLETION", fun v => ∃ b, SwitchesTo v b),
   ("SHOW_BOOT_STEPS", fun v => ∃ b, SwitchesTo v b),
   ("LOG_LEVEL", IsOffOr fun t => upperCase t ∈ levelNames),
   ("LOG_FILE_PATH", LeadsOrOff h)]

theorem conditions_names (h : Host) : (conditions h).map (·.1) = names := rfl

theorem isPackageName_iff {t : String} : isPackageName t = true ↔ HasNameForm t := by
  rw [isPackageName, HasNameForm]
  cases t.toList with
  | nil => simp
  | cons first rest => simp

variable {v : Value}

theorem exists_requiredText {name : String} : (∃ t, requiredText name v = .ok t) ↔ IsGiven v := by
  simp only [requiredText_eq_ok, IsGiven]

theorem exists_greeting : (∃ w?, greeting v = .ok w?) ↔ ∃ t, Value.written v = .ok t := by
  simp only [greeting_eq_ok]
  constructor
  · rintro ⟨_, t, ht, -⟩
    exact ⟨t, ht⟩
  · rintro ⟨t, ht⟩
    exact ⟨_, t, ht, rfl⟩

/-- An optional setting that is checked takes something exactly of what switches it off, or passes the check. -/
theorem exists_checked {check : String → Except Fault String} :
    (∃ out?, (optionalText v >>= checked check) = .ok out?) ↔ IsOffOr (fun t => ∃ out, check t = .ok out) v := by
  simp only [checked_eq_ok, IsOffOr]
  constructor
  · rintro ⟨_, t, ht, ⟨hoff, -⟩ | ⟨-, out, hcheck, -⟩⟩
    · exact ⟨t, ht, Or.inl hoff⟩
    · exact ⟨t, ht, Or.inr ⟨out, hcheck⟩⟩
  · rintro ⟨t, ht, hfits⟩
    by_cases hoff : IsOff t
    · exact ⟨none, t, ht, Or.inl ⟨hoff, rfl⟩⟩
    · obtain ⟨out, hcheck⟩ := hfits.resolve_left hoff
      exact ⟨some out, t, ht, Or.inr ⟨hoff, out, hcheck, rfl⟩⟩

theorem exists_package : (∃ p?, package v = .ok p?) ↔ IsOffOr HasNameForm v := by
  rw [package_eq, exists_checked]
  simp [packageCheck_eq_ok, isPackageName_iff]

theorem exists_level : (∃ l?, level v = .ok l?) ↔ IsOffOr (fun t => upperCase t ∈ levelNames) v := by
  rw [level_eq, exists_checked]
  simp [levelCheck_eq_ok]

theorem exists_path : (∃ p?, path h v = .ok p?) ↔ LeadsOrOff h v := by
  rw [path_eq, exists_checked, LeadsOrOff]

/-- There is a console exactly if each value meets the condition of its setting. -/
theorem exists_build : (∃ s, build h entries = .ok s) ↔ ∀ c ∈ conditions h, c.2 (settingOf entries c.1) := by
  simp only [conditions, List.forall_mem_cons, List.not_mem_nil, false_implies, implies_true, and_true]
  constructor
  · rintro ⟨s, hs⟩
    have hbuilt := build_eq_ok.mp hs
    exact ⟨exists_requiredText.mp ⟨_, hbuilt.promptSymbol⟩, exists_greeting.mp ⟨_, hbuilt.welcome⟩,
      ⟨_, size_eq_ok.mp hbuilt.historySize⟩, exists_requiredText.mp ⟨_, hbuilt.historyKey⟩,
      exists_path.mp ⟨_, hbuilt.historyPath⟩, exists_package.mp ⟨_, hbuilt.pluginPackage⟩,
      ⟨_, switch_eq_ok.mp hbuilt.completes⟩, ⟨_, switch_eq_ok.mp hbuilt.showsBootSteps⟩,
      exists_level.mp ⟨_, hbuilt.logLevel⟩, exists_path.mp ⟨_, hbuilt.logPath⟩⟩
  · rintro ⟨hprompt, hwelcome, ⟨n, hsize⟩, hkey, hhistory, hpackage, ⟨b, hcompletes⟩, ⟨c, hsteps⟩, hlevel, hlog⟩
    obtain ⟨promptSymbol, hprompt⟩ := exists_requiredText.mpr hprompt
    obtain ⟨welcome, hwelcome⟩ := exists_greeting.mpr hwelcome
    obtain ⟨historyKey, hkey⟩ := exists_requiredText.mpr hkey
    obtain ⟨historyPath, hhistory⟩ := exists_path.mpr hhistory
    obtain ⟨pluginPackage, hpackage⟩ := exists_package.mpr hpackage
    obtain ⟨logLevel, hlevel⟩ := exists_level.mpr hlevel
    obtain ⟨logPath, hlog⟩ := exists_path.mpr hlog
    refine ⟨⟨promptSymbol, welcome, n, historyKey, historyPath, pluginPackage, b, c, logLevel, logPath,
      entries.filter fun (name, _) => name ∉ names⟩, build_eq_ok.mpr ?_⟩
    exact ⟨hprompt, hwelcome, size_eq_ok.mpr hsize, hkey, hpackage, hlevel, hhistory, switch_eq_ok.mpr hcompletes,
      switch_eq_ok.mpr hsteps, hlog, rfl⟩

/-! ## What is built -/

/-- An unescaped text begins with an `n` only where the text does. -/
theorem head?_of_unescapeNewlines {cs : List Char} (h : (unescapeNewlines cs).head? = some 'n') : cs.head? = some 'n' := by
  fun_cases unescapeNewlines cs with
  | case1 => cases h
  | case2 cs => cases h
  | case3 c cs hother => rwa [unescapeNewlines.eq_3 c cs hother] at h

/-- No line feed is left written out in an unescaped text. -/
theorem not_infix_unescapeNewlines (cs : List Char) : ¬ ['\\', 'n'] <:+: unescapeNewlines cs := by
  fun_induction unescapeNewlines cs with
  | case1 => simp
  | case2 cs ih =>
    rw [List.infix_cons_iff, not_or]
    exact ⟨by simp [List.cons_prefix_cons], ih⟩
  | case3 c cs hother ih =>
    rw [List.infix_cons_iff, not_or]
    refine ⟨fun hprefix => ?_, ih⟩
    obtain ⟨rfl, rest, hrest⟩ := List.cons_prefix_cons.mp hprefix
    have hhead : cs.head? = some 'n' := head?_of_unescapeNewlines (by rw [← hrest]; rfl)
    obtain ⟨ds, rfl⟩ := List.head?_eq_some_iff.mp hhead
    exact hother ds rfl rfl

/-- Settings are as they should be, each by itself, and they keep all other entries just as they are. -/
structure Valid (entries : Entries) (s : Settings) : Prop where
  promptSymbol : ¬ IsOff s.promptSymbol
  historyKey : ¬ IsOff s.historyKey
  room : 1 ≤ s.historySize
  package : ∀ p, s.pluginPackage = some p → HasNameForm p
  level : ∀ l, s.logLevel = some l → l ∈ levelNames
  welcome : ∀ w, s.welcome = some w → ¬ ['\\', 'n'] <:+: w.toList
  completes : SwitchesTo (settingOf entries "ENABLE_COMPLETION") s.completes
  showsBootSteps : SwitchesTo (settingOf entries "SHOW_BOOT_STEPS") s.showsBootSteps
  kept : ∀ e, e ∈ s.extra ↔ e ∈ entries ∧ e.1 ∉ names

/-- What is built is valid. -/
theorem BuiltOf.valid (hb : BuiltOf h entries s) : Valid entries s where
  promptSymbol := (requiredText_eq_ok.mp hb.promptSymbol).2
  historyKey := (requiredText_eq_ok.mp hb.historyKey).2
  room := (size_eq_ok.mp hb.historySize).2
  package p hp := by
    have hpackage := hb.pluginPackage
    rw [package_eq, hp] at hpackage
    obtain ⟨t, hcheck⟩ := check_of_checked hpackage
    obtain ⟨hform, rfl⟩ := packageCheck_eq_ok.mp hcheck
    exact isPackageName_iff.mp hform
  level l hl := by
    have hlevel := hb.logLevel
    rw [level_eq, hl] at hlevel
    obtain ⟨t, hcheck⟩ := check_of_checked hlevel
    obtain ⟨hlevels, rfl⟩ := levelCheck_eq_ok.mp hcheck
    exact hlevels
  welcome w hw := by
    obtain ⟨t, -, hgreeting⟩ := greeting_eq_ok.mp hb.welcome
    rw [hw, Option.map_eq_some_iff] at hgreeting
    obtain ⟨u, -, rfl⟩ := hgreeting
    rw [String.toList_ofList]
    exact not_infix_unescapeNewlines u.toList
  completes := switch_eq_ok.mp hb.completes
  showsBootSteps := switch_eq_ok.mp hb.showsBootSteps
  kept e := by
    rw [hb.extra, List.mem_filter, decide_eq_true_eq]

/-- There is a history of a size: nothing goes wrong over an empty store, nor over any other one that is not interrupted,
unless what it holds nests too deep. -/
structure OpensHistory (capacity : Int) : Prop where
  empty : ∀ key, ∃ opened, History.init {} capacity key = .ok opened ∧ opened.result = .ok ()
  stored : ∀ (storage : Storage) (key : String), ∃ opened, History.init storage capacity key = .ok opened ∧
    (storage.Uninterrupted → (∀ innermost, ¬ storage.NestsTooDeep key innermost) → opened.result = .ok ())

/-- There is a history of each size that leaves room in it. -/
theorem opensHistory {capacity : Int} (hroom : 1 ≤ capacity) : OpensHistory capacity := by
  have hopens : ∀ (storage : Storage) (key : String), ∃ opened, History.init storage capacity key = .ok opened ∧
      (storage.Uninterrupted → (∀ innermost, ¬ storage.NestsTooDeep key innermost) → opened.result = .ok ()) := by
    intro storage key
    refine ⟨_, if_neg (Int.not_lt.mpr hroom), fun hstorage hshallow => ?_⟩
    cases hresult : (History.restore { storage, key, capacity := capacity.toNat }).result with
    | ok u => rfl
    | error why =>
      cases History.restore_error (h := { storage, key, capacity := capacity.toNat }) hstorage hresult with
      | nesting hdeep => exact absurd hdeep (hshallow _)
  refine ⟨fun key => ?_, hopens⟩
  obtain ⟨opened, hinit, hresult⟩ := hopens {} key
  refine ⟨opened, hinit, hresult ⟨?_, ?_⟩ ?_⟩
  · rintro n why ⟨⟩
  · rintro n why ⟨⟩
  · rintro innermost ⟨v, text, ⟨⟩, htext, -⟩
    cases htext

/-- **Exactly valid values are accepted.** A console is built of some entries, or they are refused for a bad value; a
location may also be refused for a link that leads round or cannot be read. What is built is valid and keeps all entries
that are none of the ten settings, and there is a history of its size. It is built whenever the value of each setting meets
the condition of that setting; on a host without null characters whose links all lead somewhere, a path only must not have
a null character in its text, nor a surrogate that stands for no byte. -/
theorem valid_values_accepted (h : Host) (entries : Entries) :
    ((∃ s, build h entries = .ok s) ∨ ∃ f, build h entries = .error f ∧ h.Refusal f) ∧
      (∀ s, build h entries = .ok s → Valid entries s ∧ OpensHistory s.historySize) ∧
      (conditions h).map (·.1) = names ∧
      ((∃ s, build h entries = .ok s) ↔ ∀ c ∈ conditions h, c.2 (settingOf entries c.1)) ∧
      (h.NullFree → h.Leading → ∀ v, Value.isWritable v = true → Nameable v.points → LeadsOrOff h v) := by
  refine ⟨?_, fun s hs => ?_, conditions_names h, exists_build, fun hnull hlinks v hwritable hnames => ?_⟩
  · cases hbuilt : build h entries with
    | ok s => exact Or.inl ⟨s, rfl⟩
    | error f => exact Or.inr ⟨f, rfl, build_onlyRefusals h entries _ hbuilt⟩
  · have hvalid := (build_eq_ok.mp hs).valid
    exact ⟨hvalid, opensHistory hvalid.room⟩
  · exact ⟨v.text, Value.written_eq_ok.mpr ⟨hwritable, rfl⟩, Or.inr (hnull.resolve_ok hlinks hnames)⟩

namespace OddValues

/-- A home directory, and a working directory. -/
def host : Host := { home := "/home/user", directory := "/work" }

/-- Values that look odd, but are as they should be, and one for the size of the history. -/
def values (size : Value) : Entries :=
  [("PROMPT_SYMBOL", .list []), ("WELCOME_MESSAGE", .string "\\\\n"), ("HISTORY_SIZE", size),
   ("HISTORY_KEY", .string " nones "), ("HISTORY_DB_PATH", .string "~/../$x"), ("PLUGIN_PACKAGE", .string "_é..1"),
   ("ENABLE_COMPLETION", .string " yEs\n"), ("SHOW_BOOT_STEPS", .int 0), ("LOG_LEVEL", .string "\tNone"), ("WIDTH", .null)]

end OddValues

open OddValues in
/-- Odd values make a valid console, but not one without room for a line. -/
theorem valid_values_accepted_odd :
    (∃ s, build host (values (.string " +1_0 ")) = .ok s ∧ Valid (values (.string " +1_0 ")) s ∧
      s.historySize = 10 ∧ ("WIDTH", Value.null) ∈ s.extra) ∧
      ∃ f, build host (values (.int 0)) = .error f ∧ host.Refusal f ∧ f.message = .ok "HISTORY_SIZE must be >= 1" := by
  have hsize : (build host (values (.string " +1_0 "))).map (·.historySize) = .ok 10 := by decide +kernel
  obtain ⟨s, hs, hten⟩ := map_eq_ok.mp hsize
  have hvalid := ((valid_values_accepted host _).2.1 s hs).1
  have hroom : (build host (values (.int 0))).map (·.historySize) = .error (.badValue "HISTORY_SIZE must be >= 1") := by
    decide +kernel
  refine ⟨⟨s, hs, hvalid, hten, (hvalid.kept _).mpr ⟨by simp [values], by decide⟩⟩, ?_⟩
  rcases (valid_values_accepted host (values (.int 0))).1 with ⟨t, ht⟩ | ⟨f, hf, hrefusal⟩
  · rw [ht] at hroom
    cases hroom
  · rw [map_eq_error.mp hroom] at hf
    cases hf
    exact ⟨_, map_eq_error.mp hroom, hrefusal, rfl⟩

namespace Nowhere

open OddValues

/-- A location at the root that goes on with a surrogate. -/
def stray : Ragged := ⟨[.char '/', .ofNat 0xD800], rfl⟩

/-- A host with two links that lead to each other. -/
def circular : Host := { host with links := [("/a", .loop "/a"), ("/b", .loop "/b")] }

/-- Values with a location for the log. -/
def withLog (location : Value) : Entries := ("LOG_FILE_PATH", location) :: values (.int 5)

/-- The values of all settings but the location meet their conditions. -/
theorem withLog_conditions (location : Value) :
    ∀ c ∈ conditions host, c.1 ≠ "LOG_FILE_PATH" → c.2 (settingOf (withLog location) c.1) := by
  intro c hc hother
  have hsize : (build host (withLog .null)).map (·.historySize) = .ok 5 := by decide +kernel
  obtain ⟨s, hs, -⟩ := map_eq_ok.mp hsize
  have hsame : settingOf (withLog location) c.1 = settingOf (withLog .null) c.1 := by
    rw [settingOf, settingOf, withLog, withLog, Entries.lookup_cons, Entries.lookup_cons, if_neg hother, if_neg hother]
  rw [hsame]
  exact exists_build.mp ⟨s, hs⟩ c hc

end Nowhere

open OddValues Nowhere in
/-- A path without null characters is refused for a surrogate, and one that comes to a link which leads round is refused
by a fault that is no bad value, although the other values meet their conditions. -/
theorem stray_surrogate_refused :
    (∀ v, ∀ c ∈ conditions host, c.1 ≠ "LOG_FILE_PATH" → c.2 (settingOf (withLog v) c.1)) ∧ host.NullFree ∧
      host.links = [] ∧ .char '\x00' ∉ stray.points ∧
      build host (withLog (.ragged stray)) =
        .error ⟨.encoding, "'utf-8' codec can't encode character '\\ud800' in position 1: surrogates not allowed"⟩ ∧
      build circular (withLog (.string "/a/x")) = .error (.badState "Symlink loop from '/a/x'") := by
  have hstray : (build host (withLog (.ragged stray))).map (·.historySize) =
      .error ⟨.encoding, "'utf-8' codec can't encode character '\\ud800' in position 1: surrogates not allowed"⟩ := by
    decide +kernel
  have hround : (build circular (withLog (.string "/a/x"))).map (·.historySize) =
      .error (.badState "Symlink loop from '/a/x'") := by
    decide +kernel
  refine ⟨withLog_conditions, ?_, rfl, by decide, map_eq_error.mp hstray, map_eq_error.mp hround⟩
  constructor <;> decide

end CommandConsole.Settings
