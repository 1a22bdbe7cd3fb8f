import Mathlib.Data.List.DropRight
import CommandConsole.Proofs.Registry.Bundled
import CommandConsole.Proofs.Session.Dispatch
import CommandConsole.Proofs.Session.Shown
import CommandConsole.Proofs.Text.Integer

/-!
# The listing of the history

The bundled `history` command shows the last entries under their positions in the whole history (`listing_eq`). How many
it shows is asked for by a text of decimal digits of any script (`Bundled.Asks`), which is read twice, by the validator
and by the action, and which may have too many digits (`Bundled.TooLong`). `history_listed` says what a line shows that
calls the command, for all arguments.
-/

namespace CommandConsole

namespace Bundled

/-! ## Which entries are asked for -/

/-- The arguments ask for a number of entries of a history: for all of them, or for as many as decimal digits of any
script spell, not none. -/
inductive Asks (all : Nat) : List String → Nat → Prop where
  | all : Asks all [] all
  | last {word : String} (hdigits : ∀ c ∈ word.toList, isDecimalDigit c = true) (hlength : word.length ≤ maxDigits)
      (hvalue : 1 ≤ decimalValue word) : Asks all [word] (decimalValue word)

/-- The only argument is a text of decimal digits that has too many of them. -/
inductive TooLong : List String → Nat → Prop where
  | word {word : String} (hdigits : ∀ c ∈ word.toList, isDecimalDigit c = true) (hlength : maxDigits < word.length) :
      TooLong [word] word.length

/-- A text of decimal digits with a value is not empty. -/
theorem ne_empty_of_decimalValue {word : String} (hvalue : 1 ≤ decimalValue word) : word ≠ "" := by
  rintro rfl
  exact Nat.not_succ_le_zero 0 hvalue

/-- A text of decimal digits is parsed as a number by the validator. -/
theorem checkCount_decimal {word : String} (hne : word ≠ "") (hdigits : ∀ c ∈ word.toList, isDecimalDigit c = true) :
    checkCount [word] =
      if word.length > maxDigits then .error (.fault (.badValue (tooLongMessage word.length)))
      else .ok (decide (1 ≤ decimalValue word)) := by
  have hempty : word.isEmpty = false := by simpa using hne
  have hall : word.toList.all isDecimalDigit = true := List.all_eq_true.mpr hdigits
  simp only [checkCount, hempty, hall, Bool.not_true, Bool.or_self, Bool.false_eq_true, if_false,
    parseInteger_decimal hne hdigits]
  by_cases hlong : word.length > maxDigits
  · simp only [hlong, if_true]
  · simp only [hlong, if_false]
    congr 2
    simp [Nat.succ_le_iff]

/-- Arguments that ask for a number of entries pass the check, and the action reads the number off them. -/
theorem Asks.accepted {all count : Nat} {args : List String} (h : Asks all args count) :
    checkCount args = .ok true ∧ countOf args all = count := by
  cases h with
  | all => exact ⟨rfl, rfl⟩
  | last hdigits hlength hvalue =>
    have hne := ne_empty_of_decimalValue hvalue
    constructor
    · rw [checkCount_decimal hne hdigits, if_neg (Nat.not_lt.mpr hlength), decide_eq_true hvalue]
    · rw [countOf, parseInteger_decimal hne hdigits, if_neg (Nat.not_lt.mpr hlength)]
      rfl

/-- Some entry is asked for, if there is any. -/
theorem Asks.nothing_or_pos {entries : List String} {count : Nat} {args : List String}
    (h : Asks entries.length args count) : entries = [] ∨ 1 ≤ count := by
  cases h with
  | all => exact (Nat.eq_zero_or_pos _).imp List.eq_nil_of_length_eq_zero id
  | last _ _ hvalue => exact Or.inr hvalue

/-- The check of too many digits fails. -/
theorem TooLong.refused {args : List String} {digits : Nat} (h : TooLong args digits) :
    checkCount args = .error (.fault (.badValue (tooLongMessage digits))) := by
  cases h with
  | @word word hdigits hlength =>
    have hne : word ≠ "" := by
      rintro rfl
      exact Nat.not_lt_zero _ hlength
    rw [checkCount_decimal hne hdigits, if_pos hlength]

/-- All other arguments are rejected. -/
theorem checkCount_rejected {all : Nat} {args : List String} (hasks : ∀ count, ¬ Asks all args count)
    (hlong : ∀ digits, ¬ TooLong args digits) : checkCount args = .ok false := by
  rcases args with _ | ⟨word, _ | ⟨more, rest⟩⟩
  · exact absurd .all (hasks all)
  · by_cases hdigits : ∀ c ∈ word.toList, isDecimalDigit c = true
    · by_cases hne : word = ""
      · rw [hne]
        rfl
      · have hlength : word.length ≤ maxDigits := Nat.not_lt.mp fun h => hlong _ (.word hdigits h)
        have hvalue : ¬ 1 ≤ decimalValue word := fun h => hasks _ (.last hdigits hlength h)
        rw [checkCount_decimal hne hdigits, if_neg (Nat.not_lt.mpr hlength), decide_eq_false hvalue]
    · have hall : word.toList.all isDecimalDigit = false := by
        rw [Bool.eq_false_iff]
        exact fun h => hdigits (List.all_eq_true.mp h)
      simp only [checkCount, hall, Bool.not_false, Bool.or_true, if_true]
  · rfl

/-! ## How they are shown -/

/-- An entry behind its position, which stands at the right end of four columns. -/
def row (position : Nat) (entry : String) : String :=
  String.ofList ((toString position).toList.leftpad 4 ' ') ++ "  " ++ entry

/-- The entries of a history, each behind its position, from 1 on. -/
def rows (entries : List String) : List String := (entries.zipIdx 1).map fun (entry, position) => row position entry

/-- There is a row for each entry. -/
theorem length_rows (entries : List String) : (rows entries).length = entries.length := by
  rw [rows, List.length_map, List.length_zipIdx]

/-- Numbered entries are rows. -/
theorem numbered_eq (first : Nat) (entries : List String) :
    numbered first entries = (entries.zipIdx first).map fun (entry, position) => row position entry := by
  induction entries generalizing first with
  | nil => rfl
  | cons entry entries ih =>
    have hrow : s!"{alignRight 4 (toString first)}  {entry}" = row first entry := by
      rw [row, List.leftpad, String.ofList_append, String.ofList_toList, String.length_toList]
      rfl
    rw [numbered, ih, hrow, List.zipIdx_cons, List.map_cons]

/-- Entries further on have their positions further on. -/
theorem drop_zipIdx {α : Type} (first n : Nat) (xs : List α) :
    (xs.zipIdx first).drop n = (xs.drop n).zipIdx (first + n) := by
  induction xs generalizing first n with
  | nil => simp
  | cons x xs ih =>
    cases n with
    | zero => rfl
    | succ n => rw [List.zipIdx_cons, List.drop_succ_cons, List.drop_succ_cons, ih, Nat.add_right_comm, Nat.add_assoc]

/-- The listing is the end of the numbered history, if there is any history. -/
theorem listing_eq (entries : List String) {count : Nat} (hcount : entries = [] ∨ 1 ≤ count) :
    listing entries count = if entries = [] then ["History is empty."] else (rows entries).rtake count := by
  by_cases hempty : entries = []
  · simp [listing, hempty]
  · have hlength : 0 < entries.length := List.length_pos_iff.mpr hempty
    have hsome : (entries.drop (entries.length - count)).isEmpty = false := by
      have := hcount.resolve_left hempty
      simp only [List.isEmpty_eq_false_iff, ne_eq, List.drop_eq_nil_iff]
      omega
    have hfirst : entries.length - (entries.drop (entries.length - count)).length + 1 =
        1 + (entries.length - count) := by
      rw [List.length_drop]
      omega
    simp only [listing, hsome, Bool.false_eq_true, if_false, if_neg hempty]
    rw [hfirst, numbered_eq, ← drop_zipIdx, List.rtake, length_rows, rows, List.map_drop]

/-- A registry into which the bundled package was loaded has the command under its name. -/
theorem lookup_history_loaded (r : Registry) :
    (r.loadCommands World.console bundledPackage).state.lookup "history" = some historyCommand := by
  have hlast : ((sessionCommands ++ textCommands).filter (·.key = lowerCase "history")).getLast? =
      some historyCommand := by rfl
  rw [(Registry.loadCommands_bundled r).2, Registry.lookup, ← Registry.command?, Registry.command?_insertAll, hlast]
  rfl

end Bundled

namespace Session

/-- Lines that are written are output, each with a line end. -/
theorem output_writeLines (s : Session) (lines : List String) :
    (lines.foldl writeLine s).surface.output = s.surface.output ++ lines.map fun text => .write (text ++ "\n") := by
  induction lines generalizing s with
  | nil => exact (List.append_nil _).symm
  | cons line lines ih =>
    rw [List.foldl_cons, ih, List.map_cons, List.append_cons]
    rfl

/-- The history command shows the listing that the arguments ask for, or reports why there is none. -/
theorem obey_history (submit : Submit) (s : Session) (name : String) (args : List String) :
    s.obey submit name Bundled.historyCommand args =
      match Bundled.checkCount args with
      | .error (.fault f) => s.reportFault name f
      | .error why => (s, .error why)
      | .ok false => s.reportRejection name Bundled.historyCommand.usage
      | .ok true =>
        ((Bundled.listing s.history.entries (Bundled.countOf args s.history.entries.length)).foldl writeLine s,
          .ok true) := by
  have hrun : run submit (Bundled.historyCommand.action args) s =
      ((Bundled.listing s.history.entries (Bundled.countOf args s.history.entries.length)).foldl writeLine s,
        .ok none) := by
    rw [Bundled.historyCommand, run, run_writeLines]
    rfl
  have hjudged : s.judge submit Bundled.historyCommand args =
      (s, (Bundled.checkCount args).map fun accepted => ⟨args, accepted⟩) := by
    rw [judge, Bundled.historyCommand]
    dsimp only
    cases Bundled.checkCount args <;> rfl
  rw [obey, hjudged]
  rcases Bundled.checkCount args with (_ | _) | _ | _
  · rfl
  · rfl
  · rfl
  · simp only [Except.map, hrun]

/-- **The listing of the history.** In a session with the bundled `history` command, a line that begins with a spelling
of that name writes, after its echo, the following lines and nothing else. If the arguments ask for a number of entries,
these are the last entries of the history, oldest first, each behind its position in the whole history: as many as are
asked for, or all there are; or a single line, if there are none. If the only argument is a number with too many digits,
it is an execution error. All other arguments are rejected, with the usage. -/
theorem history_listed (s : Session) (hbundled : s.registry.lookup "history" = some Bundled.historyCommand)
    {spelling : String} (hspelling : lowerCase spelling = "history") {args : List String} {line : String}
    (hline : Spaced (spelling :: args) line) (depth : Nat) :
    let entries := s.history.entries
    let shows := fun lines : List String => (submitWithin (depth + 1) s line).1.surface.output =
      s.surface.output ++ (s!"{s.prompt} {strip line}" :: lines).map fun text => .write (text ++ "\n")
    (∀ count, Bundled.Asks entries.length args count →
        (entries = [] → shows ["History is empty."]) ∧
        (entries ≠ [] → shows ((Bundled.rows entries).rtake count) ∧
          ((Bundled.rows entries).rtake count).length = min count entries.length)) ∧
      (∀ digits, Bundled.TooLong args digits →
        shows [s!"Error executing command 'history': {tooLongMessage digits}"]) ∧
      ((∀ count, ¬ Bundled.Asks entries.length args count) → (∀ digits, ¬ Bundled.TooLong args digits) →
        shows ["Error: Invalid arguments for command 'history'", "Usage: history [count]"]) := by
  intro entries shows
  have hlookup : s.registry.lookup spelling = some Bundled.historyCommand := by
    rw [Registry.lookup, hspelling]
    exact hbundled
  -- what the command writes comes between the echo and the end of the line, which writes nothing
  let begun := s.beginLine (strip line)
  have hshows : ∀ lines, (begun.obey (submitWithin depth) "history" Bundled.historyCommand args).1.surface.output =
      begun.surface.output ++ lines.map (fun text => .write (text ++ "\n")) → shows lines := by
    intro lines hlines
    show (submitWithin (depth + 1) s line).1.surface.output = _
    rw [submitWithin_spaced hlookup hline, endLine_output, hspelling, hlines, beginLine_output, List.append_assoc]
    rfl
  refine ⟨fun count hasks => ?_, fun digits hlong => ?_, fun hasks hlong => ?_⟩
  · obtain ⟨hcheck, hcount⟩ := hasks.accepted
    have hlisted : shows (Bundled.listing entries count) := by
      apply hshows
      rw [obey_history, hcheck]
      show ((Bundled.listing entries (Bundled.countOf args entries.length)).foldl writeLine _).surface.output = _
      rw [output_writeLines, hcount]
    rw [Bundled.listing_eq entries hasks.nothing_or_pos] at hlisted
    constructor
    · intro hempty
      rw [if_pos hempty] at hlisted
      exact hlisted
    · intro hempty
      rw [if_neg hempty] at hlisted
      refine ⟨hlisted, ?_⟩
      rw [List.rtake, List.length_drop, Bundled.length_rows]
      omega
  · apply hshows
    rw [obey_history, hlong.refused]
    rfl
  · apply hshows
    rw [obey_history, Bundled.checkCount_rejected hasks hlong]
    show _ ++ [_] ++ [_] = _
    rw [List.append_assoc]
    rfl

namespace TwoEntries

/-- A console with the bundled commands and two entries in its history. -/
def console : Session where
  completion := { registry := (({} : Registry).loadCommands World.console bundledPackage).state }
  history := { storage := {}, key := "lines", capacity := 9, entries := ["echo one", "echo two"] }
  prompt := ">"

end TwoEntries

open TwoEntries in
/-- One entry is asked for with Arabic digits, and is shown under its position; a signed number is rejected. -/
theorem history_listed_scripts :
    console.registry.lookup "history" = some Bundled.historyCommand ∧ lowerCase "HISTORY" = "history" ∧
      Spaced ["HISTORY", "٠١"] "HISTORY ٠١" ∧ Spaced ["HISTORY", "+1"] "HISTORY +1" ∧
      (submit console "HISTORY ٠١").1.surface.output = [.write "> HISTORY ٠١\n", .write "   2  echo two\n"] ∧
      (submit console "HISTORY +1").1.surface.output =
        [.write "> HISTORY +1\n", .write "Error: Invalid arguments for command 'history'\n",
          .write "Usage: history [count]\n"] := by
  have hbundled : console.registry.lookup "history" = some Bundled.historyCommand := Bundled.lookup_history_loaded {}
  have hspelling : lowerCase "HISTORY" = "history" := by decide +kernel
  have hcounted : Spaced ["HISTORY", "٠١"] "HISTORY ٠١" := words_eq_iff.mp (by decide +kernel)
  have hsigned : Spaced ["HISTORY", "+1"] "HISTORY +1" := words_eq_iff.mp (by decide +kernel)
  have hvalue : decimalValue "٠١" = 1 := by decide +kernel
  have hdigits : "٠١".toList.all isDecimalDigit = true := by decide +kernel
  have hasks : Bundled.Asks 2 ["٠١"] 1 :=
    hvalue ▸ .last (List.all_eq_true.mp hdigits) (by decide +kernel) (by decide +kernel)
  have hrow : (Bundled.rows ["echo one", "echo two"]).rtake 1 = ["   2  echo two"] := by decide +kernel
  obtain ⟨hlisted, -⟩ := history_listed console hbundled hspelling hcounted 246
  obtain ⟨-, -, hrejected⟩ := history_listed console hbundled hspelling hsigned 246
  have hshown := ((hlisted 1 hasks).2 (List.cons_ne_nil _ _)).1
  rw [show console.history.entries = ["echo one", "echo two"] from rfl, hrow] at hshown
  have hplus : '+' ∈ "+1".toList ∧ isDecimalDigit '+' = false := by decide +kernel
  have hsign : ¬ ∀ c ∈ "+1".toList, isDecimalDigit c = true :=
    fun hall => Bool.eq_false_iff.mp hplus.2 (hall _ hplus.1)
  have hrefused := hrejected (fun _ hasks => by cases hasks with | last hdigits => exact hsign hdigits)
    (fun _ hlong => by cases hlong with | word hdigits => exact hsign hdigits)
  refine ⟨hbundled, hspelling, hcounted, hsigned, hshown.trans ?_, hrefused.trans ?_⟩
  · decide +kernel
  · decide +kernel

end Session

end CommandConsole
