import CommandConsole.Proofs.Settings.Coercion
import CommandConsole.Proofs.Settings.Precedence
import CommandConsole.Proofs.Text.Points

/-!
# Values and their texts

A value counts for a setting just as its text does (`text_counts_as_value`): a console is built of both alike, or both are
refused, and only in the message of that it can be seen which of the two stood there. So it does not matter whether a
source of settings knows numbers, switches and nothing at all, or texts only.
-/

namespace CommandConsole.Settings

/-- Entries in which the values of some names are written as texts. -/
def inText (chosen : List String) (entries : Entries) : Entries :=
  entries.map fun (name, v) => (name, if name ∈ chosen then v.asText else v)

/-- Two outcomes are the same, but for how one of some values is shown that is refused. -/
inductive SameButShown {α : Type} (h : Host) (shown : Value → Prop) : Except Fault α → Except Fault α → Prop where
  | same {r : Except Fault α} (hr : OnlyRefusals h r) : SameButShown h shown r r
  | refused (noun : String) {v : Value} (hv : shown v) :
    SameButShown h shown (.error (.badValue s!"Expected {noun}, got: {v.display}"))
      (.error (.badValue s!"Expected {noun}, got: {(Value.string v.text).display}"))

variable {h : Host}

theorem SameButShown.of_eq {α : Type} {shown : Value → Prop} {r r' : Except Fault α} (heq : r' = r)
    (hr : OnlyRefusals h r) : SameButShown h shown r r' := by
  rw [heq]
  exact .same hr

/-- What comes after outcomes that are the same is the same, if each of its parts is. -/
theorem SameButShown.bind {α β : Type} {shown : Value → Prop} {r r' : Except Fault α} (hsame : SameButShown h shown r r')
    {next next' : α → Except Fault β} (hnext : ∀ a, SameButShown h shown (next a) (next' a)) :
    SameButShown h shown (r >>= next) (r' >>= next') := by
  cases hsame with
  | same hr =>
    cases r with
    | error f => exact .same fun g hg => hr g (congrArg Except.error (Except.error.inj hg))
    | ok a => exact hnext a
  | refused noun hv => exact .refused noun hv

/-- A result is the same on both sides. -/
theorem SameButShown.eq_of_ok {α : Type} {shown : Value → Prop} {r r' : Except Fault α} (hsame : SameButShown h shown r r')
    (hok : r.isOk = true) : r' = r := by
  cases hsame with
  | same hr => rfl
  | refused noun hv => cases hok

/-! ## One setting -/

/-- A value stays as it is, or its text stands in its place. -/
def Restated (shown : Value → Prop) (v w : Value) : Prop :=
  w = v ∨ Value.isWritable v = true ∧ shown v ∧ w = .string v.text ∧ v.points = pointsOf v.text

namespace Restated

variable {shown : Value → Prop} {v w : Value}

/-- The text is the same. -/
theorem written_eq (hvw : Restated shown v w) : Value.written w = Value.written v := by
  rcases hvw with rfl | ⟨hwritable, -, rfl, -⟩
  · rfl
  · exact (Value.written_eq_ok.mpr ⟨hwritable, rfl⟩).symm

/-- So is what an optional setting takes it for. -/
theorem optionalText_eq (hvw : Restated shown v w) : optionalText w = optionalText v := by
  rw [Settings.optionalText_eq, Settings.optionalText_eq, hvw.written_eq]

theorem requiredText (hvw : Restated shown v w) (name : String) :
    SameButShown h shown (requiredText name v) (requiredText name w) := by
  refine .of_eq ?_ ((requiredText_onlyBadValues name v).refusals h)
  rw [Settings.requiredText, hvw.optionalText_eq, Settings.requiredText]

theorem greeting (hvw : Restated shown v w) : SameButShown h shown (greeting v) (greeting w) := by
  refine .of_eq ?_ ((greeting_onlyBadValues v).refusals h)
  rw [Settings.greeting, hvw.optionalText_eq, Settings.greeting]

/-- So are its code points. -/
theorem points_eq (hvw : Restated shown v w) : w.points = v.points := by
  rcases hvw with rfl | ⟨-, -, rfl, hpoints⟩
  · rfl
  · exact hpoints.symm

theorem package (hvw : Restated shown v w) : SameButShown h shown (package v) (package w) := by
  refine .of_eq ?_ ((package_onlyBadValues v).refusals h)
  have hcheck : packageCheck w = packageCheck v := by
    funext t
    rw [packageCheck, packageCheck, hvw.points_eq]
  rw [package_eq, package_eq, hvw.optionalText_eq, hcheck]

theorem level (hvw : Restated shown v w) : SameButShown h shown (level v) (level w) := by
  refine .of_eq ?_ ((level_onlyBadValues v).refusals h)
  have hcheck : levelCheck w = levelCheck v := by
    funext t
    rw [levelCheck, levelCheck, hvw.points_eq]
  rw [level_eq, level_eq, hvw.optionalText_eq, hcheck]

theorem path (hvw : Restated shown v w) : SameButShown h shown (path h v) (path h w) := by
  refine .of_eq ?_ (path_onlyRefusals h v)
  rw [path_eq, path_eq, hvw.optionalText_eq, hvw.points_eq]

/-- What is read from the text of a value is the same for the text; if nothing is, it shows which of the two it was. -/
theorem orRefused {α : Type} (noun : String) (read? : Option α) (hv : shown v) :
    SameButShown h shown (orRefused noun v read?) (orRefused noun (.string v.text) read?) := by
  cases read? with
  | some a => exact .same (.ok a)
  | none => exact .refused noun hv

theorem number (hvw : Restated shown v w) : SameButShown h shown (number v) (number w) := by
  rcases hvw with rfl | ⟨hwritable, hv, rfl, -⟩
  · exact .same ((number_onlyBadValues _).refusals h)
  · rw [number_eq hwritable, number_eq rfl]
    exact orRefused "integer" _ hv

theorem switch (hvw : Restated shown v w) : SameButShown h shown (switch v) (switch w) := by
  rcases hvw with rfl | ⟨hwritable, hv, rfl, -⟩
  · exact .same ((switch_onlyBadValues _).refusals h)
  · rw [switch_eq hwritable, switch_eq rfl]
    exact orRefused "boolean" _ hv

theorem size (hvw : Restated shown v w) : SameButShown h shown (size v) (size w) := by
  refine hvw.number.bind fun n => ?_
  split
  · exact .same (.error (.misfit (Or.inl rfl)))
  · exact .same (.ok n)

end Restated

/-! ## All settings -/

variable {entries : Entries} {chosen : List String}

/-- The values of chosen settings. -/
def ValueOf (entries : Entries) (chosen : List String) (v : Value) : Prop :=
  ∃ name ∈ chosen, entries.lookup name = some v

theorem lookup_inText (name : String) :
    (inText chosen entries).lookup name =
      (entries.lookup name).map fun v => if name ∈ chosen then v.asText else v := by
  induction entries with
  | nil => rfl
  | cons e entries ih =>
    obtain ⟨key, v⟩ := e
    rw [inText, List.map_cons, Entries.lookup_cons, Entries.lookup_cons]
    by_cases hkey : name = key
    · rw [if_pos hkey, if_pos hkey, hkey, Option.map_some]
    · rw [if_neg hkey, if_neg hkey]
      exact ih

/-- The value of each setting stays as it is, or its text stands in its place. -/
theorem restated_inText (hwritable : ∀ v, ValueOf entries chosen v → Value.isWritable v = true) (name : String) :
    Restated (ValueOf entries chosen) (settingOf entries name) (settingOf (inText chosen entries) name) := by
  rw [settingOf, settingOf, lookup_inText]
  cases hlookup : entries.lookup name with
  | none => exact Or.inl rfl
  | some v =>
    simp only [Option.map_some, Option.getD_some]
    split
    · rename_i hname
      have hv : ValueOf entries chosen v := ⟨name, hname, hlookup⟩
      rcases v.asText_cases with hsame | ⟨htext, hpoints⟩
      · exact Or.inl hsame
      · exact Or.inr ⟨hwritable v hv, hv, htext, hpoints⟩
    · exact Or.inl rfl

/-- The other entries are left as they are. -/
theorem extra_inText (hchosen : chosen ⊆ names) :
    (inText chosen entries).filter (fun (name, _) => ((defaults h).lookup name).isNone) =
      entries.filter fun (name, _) => ((defaults h).lookup name).isNone := by
  simp only [defaults_lookup_isNone, inText, List.filter_map]
  refine (List.map_congr_left fun e he => ?_).trans (List.map_id _)
  have hother : e.1 ∉ names := of_decide_eq_true (List.mem_filter.mp he).2
  have hname : e.1 ∉ chosen := fun hmem => hother (hchosen hmem)
  simp [hname]

/-- **Values count as their texts do.** Some of the ten settings have values that can be written. Then what is built is the
same with their texts in the place of these values: a console with the same settings, or the same refusal, and only in the
message of a bad value it may be seen which of the two the value is that is refused. -/
theorem text_counts_as_value (h : Host) (entries : Entries) (chosen : List String) (hchosen : chosen ⊆ names)
    (hwritable : ∀ v, ValueOf entries chosen v → Value.isWritable v = true) :
    SameButShown h (ValueOf entries chosen) (build h entries) (build h (inText chosen entries)) := by
  have hsetting := restated_inText hwritable
  refine ((hsetting "PROMPT_SYMBOL").requiredText _).bind fun promptSymbol => ?_
  refine (hsetting "WELCOME_MESSAGE").greeting.bind fun welcome => ?_
  refine (hsetting "HISTORY_SIZE").size.bind fun historySize => ?_
  refine ((hsetting "HISTORY_KEY").requiredText _).bind fun historyKey => ?_
  refine (hsetting "PLUGIN_PACKAGE").package.bind fun pluginPackage => ?_
  refine (hsetting "LOG_LEVEL").level.bind fun logLevel => ?_
  refine (hsetting "HISTORY_DB_PATH").path.bind fun historyPath => ?_
  refine (hsetting "ENABLE_COMPLETION").switch.bind fun completes => ?_
  refine (hsetting "SHOW_BOOT_STEPS").switch.bind fun showsBootSteps => ?_
  refine (hsetting "LOG_FILE_PATH").path.bind fun logPath => ?_
  rw [extra_inText hchosen]
  exact .same (.ok _)

namespace Typed

/-- A home directory, and a working directory. -/
def host : Host := { home := "/home/user", directory := "/work" }

/-- Values of many kinds, and one for the size of the history. -/
def values (size : Value) : Entries :=
  [("PROMPT_SYMBOL", .int 5), ("WELCOME_MESSAGE", .null), ("HISTORY_SIZE", size), ("HISTORY_KEY", .bool true),
   ("HISTORY_DB_PATH", .date ⟨2024, 2, 29⟩), ("PLUGIN_PACKAGE", .null), ("ENABLE_COMPLETION", .bool false),
   ("SHOW_BOOT_STEPS", .int 1), ("LOG_LEVEL", .string "debug"), ("LOG_FILE_PATH", .list [.int (-3), .null]),
   ("WIDTH", .list [.bool true])]

/-- All of them can be written. -/
theorem values_writable :
    ∀ size ∈ [Value.bool true, .int 20], ∀ v, ValueOf (values size) names v → Value.isWritable v = true := by
  rintro size hsize v ⟨name, -, hlookup⟩
  have hall : ∀ size ∈ [Value.bool true, .int 20], ∀ e ∈ values size, Value.isWritable e.2 = true := by decide +kernel
  exact hall size hsize _ (mem_of_lookup hlookup)

end Typed

open Typed in
/-- A switch for a number is refused, and so is its text; a number counts as its text does. -/
theorem text_counts_as_value_refused :
    (∀ v, ValueOf (values (.bool true)) names v → Value.isWritable v = true) ∧
      SameButShown host (ValueOf (values (.bool true)) names) (build host (values (.bool true)))
        (build host (inText names (values (.bool true)))) ∧
      (build host (values (.bool true))).map (·.historySize) = .error (.badValue "Expected integer, got: True") ∧
      (build host (inText names (values (.bool true)))).map (·.historySize) =
        .error (.badValue "Expected integer, got: 'True'") ∧
      (build host (values (.int 20))).map (·.historySize) = .ok 20 ∧
      build host (inText names (values (.int 20))) = build host (values (.int 20)) := by
  have hbool := values_writable (.bool true) (by simp)
  have hint := values_writable (.int 20) (by simp)
  have hsubset : names ⊆ names := List.Subset.refl _
  refine ⟨hbool, text_counts_as_value host (values (.bool true)) names hsubset hbool, by decide +kernel,
    by decide +kernel, by decide +kernel, ?_⟩
  exact (text_counts_as_value host (values (.int 20)) names hsubset hint).eq_of_ok (by decide +kernel)

end CommandConsole.Settings
