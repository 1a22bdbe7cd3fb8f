import Mathlib.Data.List.TakeWhile
import CommandConsole.Proofs.Settings.Reading
import CommandConsole.Proofs.Text.Lines
import CommandConsole.Settings.Build

/-!
# Files that cannot be read

A file that is no text, or does not have the form of its format, is as good as missing (`unreadable_left_out`). If no other
failure escapes from the files, whatever goes wrong is wrong with a setting. But a number that is too long escapes: with
one in it, a well-formed file makes a console impossible that there is without the file (`long_number_escapes`).
-/

namespace CommandConsole

namespace Settings

/-- The files without that of a format. -/
def Format.without (format : Format) (find : String → Option ByteArray) (name : String) : Option ByteArray :=
  if name = format.fileName then none else find name

variable {find find' : String → Option ByteArray}

/-! ## Failures that are passed over, and those that escape -/

/-- No two formats have the same file. -/
theorem Format.fileName_ne {a b : Format} (h : a ≠ b) : a.fileName ≠ b.fileName := by
  cases a <;> cases b <;> simp_all [fileName]

/-- What escapes from a file is the fault of a number that is too long, or of values that are nested too deep. -/
theorem Format.escaped_eq_some_iff {format : Format} {f : Fault} :
    format.escaped find = some f ↔
      ∃ bytes, find format.fileName = some bytes ∧
        ((∃ n, format.read bytes = .error (.tooManyDigits n) ∧ f = .badValue (tooLongMessage n)) ∨
          format.read bytes = .error (.tooDeep f)) := by
  rw [escaped]
  cases find format.fileName with
  | none => simp
  | some bytes =>
    simp only [Option.map_some, Option.some.injEq, exists_eq_left']
    rcases format.read bytes with (_ | _ | n | f') | said
    · simp [Failure.fault?]
    · simp [Failure.fault?]
    · simp [Failure.fault?, eq_comm]
    · simp [Failure.fault?]
    · simp

/-- Files that contribute the same make the same settings. -/
theorem merged_congr (h : Host) (environment : List (String × String))
    (hsame : ∀ format : Format,
      contribution find (format.fileName, format.reader) = contribution find' (format.fileName, format.reader)) :
    merged h find environment = merged h find' environment := by
  have hfiles : files.mapM (contribution find) = files.mapM (contribution find') := by
    rw [Format.files_eq, List.mapM_map, List.mapM_map]
    exact congrArg (Format.all.mapM ·) (funext hsame)
  rw [merged, merged, hfiles]

/-- A file of which the failure is passed over contributes what a missing one does. -/
theorem contribution_without {format : Format} {bytes : ByteArray} {why : Failure}
    (hbytes : find format.fileName = some bytes) (hfails : format.read bytes = .error why) (hpassed : why.fault? = none)
    (other : Format) :
    contribution find (other.fileName, other.reader) =
      contribution (format.without find) (other.fileName, other.reader) := by
  by_cases hother : other = format
  · subst hother
    have hread : other.reader bytes = .ok [] := by
      rw [Format.reader_eq, hfails]
      simp only [hpassed, Option.elim_none]
    simp only [contribution, hbytes, hread, Format.without, if_true]
  · simp only [contribution, Format.without, if_neg (Format.fileName_ne hother)]

/-- **A file that cannot be read is left out, unless its failure escapes.** A file that is no text or does not have the form
of its format counts as if it were missing. Just the faults of numbers that are too long and of values that are nested too
deep escape from files. Where one does, the first one is what comes of loading; where none does, the files give settings,
and what comes of loading is what comes of building a console from them. -/
theorem unreadable_left_out (h : Host) (find : String → Option ByteArray) (environment : List (String × String)) :
    (∀ (format : Format) (bytes : ByteArray), find format.fileName = some bytes →
        format.read bytes = .error .noText ∨ format.read bytes = .error .malformed →
        load h find environment = load h (format.without find) environment) ∧
      (∀ (format : Format) (f : Fault), format.escaped find = some f ↔
        ∃ bytes, find format.fileName = some bytes ∧
          ((∃ n, format.read bytes = .error (.tooManyDigits n) ∧ f = .badValue (tooLongMessage n)) ∨
            format.read bytes = .error (.tooDeep f))) ∧
      (∀ f, Format.all.findSome? (Format.escaped find) = some f → load h find environment = .error f) ∧
      (Tolerable find →
        ∃ entries, merged h find environment = .ok entries ∧ load h find environment = build h entries) := by
  refine ⟨?_, fun format f => Format.escaped_eq_some_iff, ?_, ?_⟩
  · intro format bytes hbytes hfails
    obtain ⟨why, hwhy, hpassed⟩ : ∃ why, format.read bytes = .error why ∧ why.fault? = none := by
      rcases hfails with hfails | hfails
      · exact ⟨_, hfails, rfl⟩
      · exact ⟨_, hfails, rfl⟩
    rw [load, load, merged_congr h environment (contribution_without hbytes hwhy hpassed)]
  · intro f hfirst
    rw [load, merged_escaped h hfirst environment]
    rfl
  · intro htolerable
    refine ⟨_, merged_tolerable h htolerable environment, ?_⟩
    rw [load, merged_tolerable h htolerable environment]
    rfl

end Settings

/-! ## A number that is too long -/

namespace LongNumber

open Json

/-- The beginning of a table in which a number stands. -/
def opening : List Char := "\x7b\"history_size\": ".toList

/-- A table in which a number of so many ones stands. -/
def file (digits : Nat) : String := String.ofList (opening ++ List.replicate digits '1' ++ ['\x7d'])

theorem tokensFrom_opening (rest : List Char) :
    tokensFrom .between (opening ++ rest) =
      .mark '\x7b' :: .string (pointsOf "history_size") :: .mark ':' :: tokensFrom .between rest := rfl

/-- Ones are taken up into a number. -/
theorem tokensFrom_ones (n : Nat) (seen rest : List Char) :
    tokensFrom (.number seen) (List.replicate n '1' ++ rest) = tokensFrom (.number (List.replicate n '1' ++ seen)) rest := by
  induction n generalizing seen with
  | zero => rfl
  | succ n ih =>
    have hstep : tokensFrom (.number seen) (List.replicate (n + 1) '1' ++ rest) =
        tokensFrom (.number ('1' :: seen)) (List.replicate n '1' ++ rest) := rfl
    rw [hstep, ih, List.replicate_succ', List.append_assoc, List.singleton_append]

/-- Nothing but ones is one number. -/
theorem numberTokens_ones (n : Nat) :
    numberTokens (List.replicate (n + 1) '1') = [.number ⟨false, List.replicate (n + 1) '1', [], 0, true⟩] := by
  have hwhole : (List.replicate (n + 1) '1').takeWhile Char.isDigit = List.replicate (n + 1) '1' := by
    rw [List.takeWhile_eq_self_iff]
    intro c hc
    rw [List.eq_of_mem_replicate hc]
    rfl
  have hscan : Numeral.scan? (List.replicate (n + 1) '1') =
      some (⟨false, List.replicate (n + 1) '1', [], 0, true⟩, []) := by
    unfold Numeral.scan?
    rw [List.replicate_succ] at hwhole ⊢
    simp [hwhole]
    rfl
  rw [numberTokens, hscan]

/-- The tokens of the file. -/
theorem tokens_file (n : Nat) :
    tokens (file (n + 1)) =
      [.mark '\x7b', .string (pointsOf "history_size"), .mark ':',
        .number ⟨false, List.replicate (n + 1) '1', [], 0, true⟩, .mark '\x7d'] := by
  have hnumber : tokensFrom .between (List.replicate (n + 1) '1' ++ ['\x7d']) =
      tokensFrom (.number (List.replicate (n + 1) '1')) ['\x7d'] := by
    have hstep : tokensFrom .between (List.replicate (n + 1) '1' ++ ['\x7d']) =
        tokensFrom (.number ['1']) (List.replicate n '1' ++ ['\x7d']) := rfl
    rw [hstep, tokensFrom_ones, ← List.replicate_succ']
  have hend : ∀ seen, tokensFrom (.number seen) ['\x7d'] = numberTokens seen.reverse ++ [.mark '\x7d'] := by
    intro seen
    have hclose : stepMode (.number seen) '\x7d' = (.between, numberTokens seen.reverse ++ [.mark '\x7d']) := by
      simp [stepMode, isNumberChar, startToken]
    rw [tokensFrom, hclose]
    simp [tokensFrom, endTokens]
  rw [tokens, file, String.toList_ofList, List.append_assoc, tokensFrom_opening, hnumber, hend, List.reverse_replicate,
    numberTokens_ones]
  rfl

/-- The number is too long for a value. -/
theorem parse_file {digits : Nat} (hlong : maxDigits < digits) : parse (file digits) = .error (.tooManyDigits digits) := by
  obtain ⟨n, rfl⟩ := Nat.exists_eq_add_of_lt (Nat.zero_lt_of_lt hlong)
  rw [Nat.zero_add] at hlong ⊢
  have hvalue : Numeral.value ⟨false, List.replicate (n + 1) '1', [], 0, true⟩ = .error (.tooManyDigits (n + 1)) := by
    simp [Numeral.value, hlong]
  have hopened : ∀ rest, advanceAll {} (.mark '\x7b' :: .string (pointsOf "history_size") :: .mark ':' :: rest) =
      advanceAll ⟨[.table [] "history_size"], .value⟩ rest := fun _ => rfl
  rw [parse, tokens_file, hopened, advanceAll]
  simp only [advance, beginValue, hvalue]
  rfl

/-- The file is well formed but for the length of the number. -/
theorem read_file {digits : Nat} (hlong : maxDigits < digits) :
    Settings.Format.json.read (file digits).toUTF8 = .error (.tooManyDigits digits) := by
  have hreturn : '\r' ∉ (file digits).toList := by
    rw [file, String.toList_ofList, List.mem_append, List.mem_append]
    rintro ((h | h) | h)
    · revert h
      decide
    · cases List.eq_of_mem_replicate h
    · revert h
      decide
  have htext : Settings.textOf (file digits).toUTF8 = some (file digits).toList := by
    rw [Settings.textOf_toUTF8, unifyNewlines_eq_self hreturn]
  simp only [Settings.Format.read, htext, String.ofList_toList, parse_file hlong]

/-- A working directory with this file in it, and no other one. -/
def find (digits : Nat) (name : String) : Option ByteArray :=
  if name = "config.json" then some (file digits).toUTF8 else none

/-- The failure escapes from the file. -/
theorem escaped_file {digits : Nat} (hlong : maxDigits < digits) :
    Settings.Format.all.findSome? (Settings.Format.escaped (find digits)) = some (.badValue (tooLongMessage digits)) := by
  have hjson : Settings.Format.json.escaped (find digits) = some (.badValue (tooLongMessage digits)) :=
    Settings.Format.escaped_eq_some_iff.mpr ⟨_, if_pos rfl, Or.inl ⟨digits, read_file hlong, rfl⟩⟩
  have hdotEnv : Settings.Format.dotEnv.escaped (find digits) = none := rfl
  have hini : Settings.Format.ini.escaped (find digits) = none := rfl
  simp only [Settings.Format.all, List.findSome?_cons, hdotEnv, hini, hjson]

/-- Without the file, there is none. -/
theorem without_file (digits : Nat) : Settings.Format.json.without (find digits) = fun _ => none := by
  funext name
  rw [Settings.Format.without, find]
  split
  · rfl
  · rename_i hname
    exact if_neg hname

/-- A home directory, and a working directory. -/
def host : Host := { home := "/home/user", directory := "/work" }

end LongNumber

open LongNumber Settings in
/-- A number of one digit too many makes a console impossible that there is without its file. -/
theorem long_number_escapes :
    Format.json.read (file 4301).toUTF8 = .error (.tooManyDigits 4301) ∧
      load host (find 4301) [] = .error (.badValue (tooLongMessage 4301)) ∧
      (load host (Format.json.without (find 4301)) []).toOption.isSome = true := by
  have hlong : maxDigits < 4301 := by decide
  refine ⟨read_file hlong, ?_, ?_⟩
  · rw [load, merged_escaped host (escaped_file hlong) []]
    rfl
  · rw [without_file]
    decide +kernel

end CommandConsole
