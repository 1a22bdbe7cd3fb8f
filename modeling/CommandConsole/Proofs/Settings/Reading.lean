import CommandConsole.Proofs.Settings.Entries
import CommandConsole.Settings.Sources

/-!
# What files contribute

`Format.read` says of each file what stands in it, or why it cannot be read. Of a file that cannot be read some failures
escape as faults (`Failure.fault?`), the others make it count as empty. So all settings together come from the assignments
of all files (`merged_tolerable`), unless a failure escapes: then the first one that does is all that comes of it
(`merged_escaped`).
-/

namespace CommandConsole.Settings

/-- The characters of a text are read from its bytes, with their line ends made alike. -/
theorem textOf_toUTF8 (s : String) : textOf s.toUTF8 = some (unifyNewlines s.toList) := by
  have hread : String.fromUTF8? s.toUTF8 = some s := by
    unfold String.fromUTF8?
    exact dif_pos s.isValidUTF8
  rw [textOf, hread, Option.map_some]

/-- Why a file cannot be read. -/
inductive Failure where
  /-- Its bytes are no text. -/
  | noText
  /-- Its text does not have the form of its format. -/
  | malformed
  /-- It is well formed, but for the length of a number. -/
  | tooManyDigits (digits : Nat)
  /-- Values are nested too deep in it. -/
  | tooDeep (fault : Fault)
  deriving Repr, DecidableEq

/-- The fault that is made of a failure; of most none is made. -/
def Failure.fault? : Failure → Option Fault
  | .noText => none
  | .malformed => none
  | .tooManyDigits n => some (.badValue (tooLongMessage n))
  | .tooDeep f => some f

/-- A format of files with settings. -/
inductive Format where
  | dotEnv
  | ini
  | json
  | toml
  deriving Repr, DecidableEq

namespace Format

/-- The formats, in the order in which their files are read. -/
def all : List Format := [.dotEnv, .ini, .json, .toml]

/-- The file of a format. -/
def fileName : Format → String
  | .dotEnv => ".env"
  | .ini => "config.ini"
  | .json => "config.json"
  | .toml => "config.toml"

/-- The reader of a format. -/
def reader : Format → Reader
  | .dotEnv => readDotEnv
  | .ini => readIni
  | .json => readJson
  | .toml => readToml

/-- The assignments in a file, in the order in which they are made, or why it cannot be read. -/
def read (format : Format) (bytes : ByteArray) : Except Failure Entries :=
  match format with
  | .dotEnv =>
    match textOf bytes with
    | none => .error .noText
    | some cs => .ok ((DotEnv.parse cs).map fun (k, v) => (k, .string v))
  | .ini =>
    match textOf bytes with
    | none => .error .noText
    | some cs =>
      match Ini.parse cs with
      | none => .error .malformed
      | some d => .ok (d.entries.map fun (k, v) => (upperCase k, .string v))
  | .json =>
    match textOf bytes with
    | none => .error .noText
    | some cs =>
      match Json.parse (String.ofList cs) with
      | .ok (.table entries) => (flatten? maxTables entries).mapError .tooDeep
      | .ok _ => .ok []
      | .error .malformed => .error .malformed
      | .error (.tooManyDigits n) => .error (.tooManyDigits n)
      | .error (.tooDeep innermost) => .error (.tooDeep (Json.tooDeepFault innermost))
  | .toml =>
    match String.fromUTF8? bytes with
    | none => .error .noText
    | some s =>
      match Toml.parse s.toList with
      | .ok entries => (flatten? maxTables entries).mapError .tooDeep
      | .error .malformed => .error .malformed
      | .error (.tooManyDigits n) => .error (.tooManyDigits n)
      | .error .tooDeep => .error (.tooDeep tooDeepFault)

/-- What is said in the file of a format; a file that is missing or cannot be read says nothing. -/
def assignments (format : Format) (find : String → Option ByteArray) : Entries :=
  ((find format.fileName).bind fun bytes => (format.read bytes).toOption).getD []

/-- The fault that escapes from the file of a format, if one does. -/
def escaped (find : String → Option ByteArray) (format : Format) : Option Fault :=
  match (find format.fileName).map format.read with
  | some (.error why) => why.fault?
  | _ => none

/-! ## One file -/

/-- The files that are read are those of the formats. -/
theorem files_eq : files = all.map fun format => (format.fileName, format.reader) := rfl

/-- What a reader makes of assignments: those of a flat file are collected, those of tables are collected already. -/
def collect : Format → Entries → Entries
  | .dotEnv, said => Entries.putAll [] said
  | .ini, said => Entries.putAll [] said
  | .json, said => said
  | .toml, said => said

theorem last?_collect (format : Format) (said : Entries) (name : String) :
    Entries.last? name (format.collect said) = Entries.last? name said := by
  cases format with
  | dotEnv | ini => exact Entries.last?_putAll_nil said name
  | json | toml => rfl

/-- A reader collects the assignments in a file. Of a failure it makes a fault, or nothing at all. -/
theorem reader_eq (format : Format) (bytes : ByteArray) :
    format.reader bytes =
      match format.read bytes with
      | .ok said => .ok (format.collect said)
      | .error why => why.fault?.elim (.ok []) .error := by
  have hflat : ∀ entries, flatten? maxTables entries =
      match (flatten? maxTables entries).mapError Failure.tooDeep with
      | .ok said => .ok said
      | .error why => why.fault?.elim (.ok []) .error := by
    intro entries
    cases flatten? maxTables entries <;> rfl
  cases format with
  | dotEnv =>
    simp only [reader, readDotEnv, read]
    cases textOf bytes <;> rfl
  | ini =>
    simp only [reader, readIni, read]
    cases textOf bytes with
    | none => rfl
    | some cs =>
      dsimp only [Option.bind_some]
      cases Ini.parse cs with
      | none => rfl
      | some d =>
        simp only [Option.map_some, Option.getD_some, ofTexts, List.map_map]
        rfl
  | json =>
    simp only [reader, readJson, read]
    cases textOf bytes with
    | none => rfl
    | some cs =>
      dsimp only
      rcases Json.parse (String.ofList cs) with (_ | _ | _) | v
      · rfl
      · rfl
      · rfl
      · cases v with
        | table entries => exact hflat entries
        | _ => rfl
  | toml =>
    simp only [reader, readToml, read]
    cases String.fromUTF8? bytes with
    | none => rfl
    | some s =>
      dsimp only
      rcases Toml.parse s.toList with (_ | _ | _) | entries
      · rfl
      · rfl
      · rfl
      · exact hflat entries

/-- What the file of a format contributes. -/
theorem contribution_eq (find : String → Option ByteArray) (format : Format) :
    contribution find (format.fileName, format.reader) =
      (format.escaped find).elim (.ok (format.collect (format.assignments find))) .error := by
  have hnothing : format.collect [] = [] := by
    cases format <;> rfl
  simp only [contribution, escaped, assignments]
  cases find format.fileName with
  | none => exact congrArg Except.ok hnothing.symm
  | some bytes =>
    simp only [Option.map_some, Option.bind_some, reader_eq]
    cases format.read bytes with
    | ok said => rfl
    | error why =>
      dsimp only
      cases why.fault? with
      | none => exact congrArg Except.ok hnothing.symm
      | some f => rfl

end Format

/-! ## All files -/

variable {α β ε : Type} {f : α → Except ε β}

/-- Where each of many steps succeeds, all of them do. -/
theorem mapM_of_ok {g : α → β} {l : List α} (h : ∀ a ∈ l, f a = .ok (g a)) : l.mapM f = .ok (l.map g) := by
  induction l with
  | nil => rfl
  | cons a l ih =>
    rw [List.forall_mem_cons] at h
    rw [List.mapM_cons, h.1, ih h.2]
    rfl

/-- Of many steps the first one that fails makes them fail. -/
theorem mapM_of_error {e? : α → Option ε} {g : α → β} {l : List α} {e : ε}
    (h : ∀ a, f a = (e? a).elim (.ok (g a)) .error) (hfirst : l.findSome? e? = some e) :
    l.mapM f = .error e := by
  induction l with
  | nil => cases hfirst
  | cons a l ih =>
    rw [List.mapM_cons, h a]
    rw [List.findSome?_cons] at hfirst
    cases ha : e? a with
    | none =>
      rw [ha] at hfirst
      simp only [ih hfirst]
      rfl
    | some e' =>
      rw [ha] at hfirst
      cases hfirst
      rfl

variable {find : String → Option ByteArray}

/-- Nothing escapes from the files: each of them is missing, or it can be read, or its failure is passed over. -/
def Tolerable (find : String → Option ByteArray) : Prop := ∀ format : Format, format.escaped find = none

/-- If nothing escapes, all settings are those of the files, one after the other, over the defaults and under the
variables. -/
theorem merged_tolerable (h : Host) (htolerable : Tolerable find) (environment : List (String × String)) :
    merged h find environment =
      .ok (Entries.putAll
        ((Format.all.map fun format => format.collect (format.assignments find)).foldl Entries.putAll (defaults h))
        (environment.filterMap ofVariable)) := by
  have hfiles : files.mapM (contribution find) =
      .ok (Format.all.map fun format => format.collect (format.assignments find)) := by
    rw [Format.files_eq, List.mapM_map]
    refine mapM_of_ok fun format _ => ?_
    rw [Function.comp_apply, Format.contribution_eq, htolerable format, Option.elim_none]
  rw [merged, hfiles]
  rfl

/-- The first fault that escapes from a file is all that comes of the settings. -/
theorem merged_escaped (h : Host) {f : Fault} (hfirst : Format.all.findSome? (Format.escaped find) = some f)
    (environment : List (String × String)) : merged h find environment = .error f := by
  have hfiles : files.mapM (contribution find) = .error f := by
    rw [Format.files_eq, List.mapM_map]
    refine mapM_of_error (g := fun format => format.collect (format.assignments find)) ?_ hfirst
    exact Format.contribution_eq find
  rw [merged, hfiles]
  rfl

end CommandConsole.Settings
