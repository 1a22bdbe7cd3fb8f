import CommandConsole.Proofs.Settings.Reading
import CommandConsole.Settings.Build

/-!
# Precedence of sources

The value of a setting is the one that the highest source gives to it that says anything of it (`highest?`). A console is
built from these values of its ten settings, and the names of all others are kept along with theirs
(`settings_by_precedence`). So it does not matter what lower sources say of a name, not even if there is a fault.
-/

namespace CommandConsole.Settings

/-- Where settings come from. -/
inductive Source where
  | variables
  | file (format : Format)
  | defaults
  deriving Repr, DecidableEq

namespace Source

/-- All sources, from the highest to the lowest. -/
def ranking : List Source := [.variables, .file .toml, .file .json, .file .ini, .file .dotEnv, .defaults]

/-- What a source says, in the order in which it says it. -/
def assignments (h : Host) (find : String → Option ByteArray) (environment : List (String × String)) : Source → Entries
  | .variables => environment.filterMap ofVariable
  | .file format => format.assignments find
  | .defaults => Settings.defaults h

/-- The value that a source gives to a name, the last one if it gives several. -/
def value? (source : Source) (h : Host) (find : String → Option ByteArray) (environment : List (String × String))
    (name : String) : Option Value :=
  Entries.last? name (source.assignments h find environment)

end Source

/-- The value of the highest source that gives one to a name. -/
def highest? (h : Host) (find : String → Option ByteArray) (environment : List (String × String)) (name : String) :
    Option Value :=
  Source.ranking.findSome? fun source => source.value? h find environment name

/-- The names of the ten settings. -/
def names : List String :=
  ["PROMPT_SYMBOL", "WELCOME_MESSAGE", "HISTORY_SIZE", "HISTORY_KEY", "HISTORY_DB_PATH", "PLUGIN_PACKAGE",
   "ENABLE_COMPLETION", "SHOW_BOOT_STEPS", "LOG_LEVEL", "LOG_FILE_PATH"]

/-- The ten settings are those that have defaults. -/
theorem defaults_names (h : Host) : (defaults h).map (·.1) = names := rfl

variable {h : Host} {find : String → Option ByteArray} {environment : List (String × String)}

/-- All settings together have the value of the highest source that gives one to their name. -/
theorem merged_highest (h : Host) (htolerable : Tolerable find) (environment : List (String × String)) :
    ∃ entries, merged h find environment = .ok entries ∧ (entries.map (·.1)).Nodup ∧
      ∀ name, entries.lookup name = highest? h find environment name := by
  have hdefaults : ((defaults h).map (·.1)).Nodup := by
    rw [defaults_names]
    decide
  refine ⟨_, merged_tolerable h htolerable environment,
    Entries.putAll_nodup (Entries.foldl_putAll_nodup hdefaults _) _, fun name => ?_⟩
  rw [Entries.lookup_putAll, Entries.lookup_foldl_putAll, ← Entries.last?_eq_lookup hdefaults]
  simp only [Format.all, List.map_cons, List.map_nil, List.reverse_cons, List.reverse_nil, List.nil_append,
    List.cons_append, highest?, Source.ranking, Entries.findSome?_cons_or, List.findSome?_nil, Format.last?_collect,
    Source.value?, Source.assignments, Option.or_assoc, Option.or_none]

/-- A name is one of the ten exactly if it has a default. -/
theorem defaults_lookup_isNone (h : Host) (name : String) : ((defaults h).lookup name).isNone = decide (name ∉ names) := by
  rw [Bool.eq_iff_iff, Option.isNone_iff_eq_none, List.lookup_eq_none_iff, decide_eq_true_eq, ← defaults_names h,
    List.mem_map]
  simp only [bne_iff_ne, ne_eq, not_exists, not_and]
  exact forall₂_congr fun e _ => not_congr eq_comm

/-- What is built depends on the values of the ten settings, and all other entries are kept. -/
theorem build_eq (h : Host) (entries : Entries) :
    build h entries =
      (build h (names.map fun name => (name, (entries.lookup name).getD .null))).map
        fun s => { s with extra := entries.filter fun (name, _) => name ∉ names } := by
  have hsetting : ∀ name ∈ names,
      ((names.map fun name => (name, (entries.lookup name).getD .null)).lookup name).getD .null =
        (entries.lookup name).getD .null := by
    simp [names, List.lookup_cons]
  show _ = (fun s : Settings => { s with extra := entries.filter fun (name, _) => name ∉ names }) <$> _
  simp (disch := decide) only [build, defaults_lookup_isNone, map_bind, map_pure, hsetting]

/-- A console is built from the values of the highest sources for its ten settings, and the names of all others are kept
with theirs. -/
theorem load_highest (h : Host) (htolerable : Tolerable find) (environment : List (String × String)) :
    ∃ extra : Entries,
      load h find environment =
          (build h (names.map fun name => (name, (highest? h find environment name).getD .null))).map
            (fun s => { s with extra }) ∧
        (extra.map (·.1)).Nodup ∧
        ∀ name v, (name, v) ∈ extra ↔ name ∉ names ∧ highest? h find environment name = some v := by
  obtain ⟨entries, hmerged, hnodup, hlookup⟩ := merged_highest h htolerable environment
  refine ⟨entries.filter fun (name, _) => name ∉ names, ?_, ?_, fun name v => ?_⟩
  · have hload : load h find environment = build h entries := by
      rw [load, hmerged]
      rfl
    rw [hload, build_eq]
    simp only [hlookup]
  · exact hnodup.sublist (List.filter_sublist.map _)
  · rw [List.mem_filter, decide_eq_true_eq, ← hlookup, Entries.lookup_eq_some_iff_mem hnodup, and_comm]

/-! ## Two configurations -/

/-- Two results are the same, but for the order of the settings that are none of the ten. -/
inductive SameResult : Except Fault Settings → Except Fault Settings → Prop where
  | fault (f : Fault) : SameResult (.error f) (.error f)
  | settings (s : Settings) {extra : Entries} (hextra : s.extra.Perm extra) : SameResult (.ok s) (.ok { s with extra })

variable {find' : String → Option ByteArray} {environment' : List (String × String)}

/-- Where the highest sources give the same values, the results are the same. -/
theorem sameResult_of_highest (htolerable : Tolerable find) (htolerable' : Tolerable find')
    (hsame : ∀ name, highest? h find' environment' name = highest? h find environment name) :
    SameResult (load h find environment) (load h find' environment') := by
  obtain ⟨extra, hload, hnodup, hmem⟩ := load_highest h htolerable environment
  obtain ⟨extra', hload', hnodup', hmem'⟩ := load_highest h htolerable' environment'
  have hperm : extra.Perm extra' := by
    rw [List.perm_ext_iff_of_nodup hnodup.of_map hnodup'.of_map]
    rintro ⟨name, v⟩
    rw [hmem, hmem', hsame]
  simp only [hsame] at hload'
  rw [hload, hload']
  cases build h (names.map fun name => (name, (highest? h find environment name).getD .null)) with
  | error f => exact .fault f
  | ok s => exact .settings { s with extra } hperm

/-- What lower sources say of a name does not matter where a higher one gives it a value. -/
theorem highest_of_value {name : String} {source : Source} {higher lower : List Source}
    (hranking : Source.ranking = higher ++ source :: lower)
    (hvalue : (source.value? h find environment name).isSome = true)
    (hsame : ∀ (other : Source) (key : String), other ∉ lower ∨ key ≠ name →
      other.value? h find' environment' key = other.value? h find environment key) (key : String) :
    highest? h find' environment' key = highest? h find environment key := by
  by_cases hkey : key = name
  · subst hkey
    have hnodup : (higher ++ source :: lower).Nodup := by
      rw [← hranking]
      decide
    obtain ⟨-, hbelow, hapart⟩ := List.nodup_append.mp hnodup
    have hhigher : higher.findSome? (fun other => other.value? h find' environment' key) =
        higher.findSome? fun other => other.value? h find environment key := by
      refine Entries.findSome?_congr fun other hother => hsame other key (Or.inl fun hlower => ?_)
      exact hapart other hother other (List.mem_cons_of_mem _ hlower) rfl
    obtain ⟨v, hv⟩ := Option.isSome_iff_exists.mp hvalue
    have hv' := hsame source key (Or.inl (List.nodup_cons.mp hbelow).1)
    simp only [highest?, hranking, List.findSome?_append, hhigher, List.findSome?_cons, hv', hv]
  · have hall : (fun other : Source => other.value? h find' environment' key) =
        fun other => other.value? h find environment key := by
      funext other
      exact hsame other key (Or.inr hkey)
    rw [highest?, highest?, hall]

/-- **The highest source counts.** Nothing escapes from the files. Then a console is built from the values of the highest
sources for its ten settings, and kept along with them are just the other names that a source gives a value to, each with
the value of the highest one. So the result is the same where lower sources say something else of a name that a source
gives a value to, be it a console or a fault. -/
theorem settings_by_precedence (h : Host) (find : String → Option ByteArray) (environment : List (String × String))
    (htolerable : Tolerable find) :
    (∃ extra : Entries,
      load h find environment =
          (build h (names.map fun name => (name, (highest? h find environment name).getD .null))).map
            (fun s => { s with extra }) ∧
        (extra.map (·.1)).Nodup ∧
        ∀ name v, (name, v) ∈ extra ↔ name ∉ names ∧ highest? h find environment name = some v) ∧
      ∀ (find' : String → Option ByteArray) (environment' : List (String × String)) (name : String) (source : Source)
        (higher lower : List Source),
        Tolerable find' → Source.ranking = higher ++ source :: lower →
        (source.value? h find environment name).isSome = true →
        (∀ (other : Source) (key : String), other ∉ lower ∨ key ≠ name →
          other.value? h find' environment' key = other.value? h find environment key) →
        SameResult (load h find environment) (load h find' environment') := by
  refine ⟨load_highest h htolerable environment, ?_⟩
  intro find' environment' name source higher lower htolerable' hranking hvalue hsame
  exact sameResult_of_highest htolerable htolerable' (highest_of_value hranking hvalue hsame)

namespace Folder

/-- A home directory, and a working directory. -/
def host : Host := { home := "/home/user", directory := "/work" }

/-- Files that name the same things: one of them is cut off, and another one gives a level that there is not. -/
def contents : String → Option ByteArray
  | ".env" => some "history_size = 3\nTHEME='dark'\n".toUTF8
  | "config.ini" => some "[log]\nLOG_LEVEL = loud\n".toUTF8
  | "config.json" => some "\x7b\"history\": \x7b\"size\": 7\x7d".toUTF8
  | "config.toml" => some "log.level = 'debug'\nwidth = 1\n[Log]\nLevel = 'info'\n".toUTF8
  | _ => none

/-- The same files without the one with that level. -/
def fewer (name : String) : Option ByteArray := if name = "config.ini" then none else contents name

/-- A variable that is a setting, and one that is none. -/
def exported : List (String × String) := [("TERMCORE_WIDTH", "80"), ("TERMCORE_theme", "none")]

/-- Only one name is given another value by a source. -/
theorem fewer_same (other : Source) (key : String) (h : other ≠ .file .ini ∨ key ≠ "LOG_LEVEL") :
    other.value? host fewer exported key = other.value? host contents exported key := by
  rcases other with _ | (_ | _ | _ | _) | _
  · rfl
  · rfl
  · have hkey : key ≠ "LOG_LEVEL" := h.resolve_left fun hne => hne rfl
    have hkeys : (Format.ini.assignments contents).map (·.1) = ["LOG_LEVEL"] := by decide +kernel
    have hnone : Entries.last? key (Format.ini.assignments contents) = none := by
      apply Entries.last?_eq_none
      rw [hkeys]
      simpa using hkey
    exact hnone.symm
  · rfl
  · rfl
  · rfl

end Folder

open Folder in
/-- The level that there is not does no harm under the one of a higher source, and the file that is cut off says nothing. -/
theorem settings_by_precedence_overridden :
    Tolerable contents ∧ Tolerable fewer ∧
      ["HISTORY_SIZE", "LOG_LEVEL", "THEME", "WIDTH"].map (fun name =>
          (highest? host contents exported name).map Value.text) =
        [some "3", some "info", some "dark", some "80"] ∧
      SameResult (load host contents exported) (load host fewer exported) := by
  have htolerable : Tolerable contents := by
    intro format
    cases format <;> decide +kernel
  have htolerable' : Tolerable fewer := by
    intro format
    cases format <;> decide +kernel
  have hvalue : ((Source.file .toml).value? host contents exported "LOG_LEVEL").isSome = true := by
    decide +kernel
  refine ⟨htolerable, htolerable', by decide +kernel, ?_⟩
  refine (settings_by_precedence host contents exported htolerable).2 fewer exported "LOG_LEVEL" (.file .toml) [.variables]
    [.file .json, .file .ini, .file .dotEnv, .defaults] htolerable' rfl hvalue ?_
  intro other key h
  exact fewer_same other key (h.imp_left fun hother heq => hother (by simp [heq]))

end CommandConsole.Settings
