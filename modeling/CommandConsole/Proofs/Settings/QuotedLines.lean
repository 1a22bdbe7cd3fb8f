import CommandConsole.Proofs.Settings.Reading
import CommandConsole.Proofs.Text.Lines
import CommandConsole.Proofs.Text.UpperCase
import CommandConsole.Proofs.Text.Words
import CommandConsole.Settings.Build
import CommandConsole.Storage

/-!
# Quoted lines

A `Line` is an assignment of a value between quotes, a comment or a blank line. Whatever stands between the quotes, and
however many blanks stand around name and value, a file of such lines gives each name just its value (`parse_file`). So it
makes the same console as variables with these names and values do (`quoted_lines_count_as_variables`).
-/

namespace CommandConsole

/-! ## Characters -/

/-- The characters of names of settings are word characters in front of the small letters. -/
theorem isWordChar_of_setting {c : Char} (h : Settings.isSettingChar c = true) :
    isWordChar c = true ∧ c.toNat < 'a'.toNat := by
  have hrange : CodePoints.has (wordChars.take 3) c = true := by
    simp only [Settings.isSettingChar, Bool.or_eq_true, decide_eq_true_eq] at h
    have hthree : wordChars.take 3 = [('0'.toNat, '9'.toNat), ('A'.toNat, 'Z'.toNat), ('_'.toNat, '_'.toNat)] := rfl
    rw [hthree]
    rcases h with (h | h) | rfl
    · have hupper : 'A'.toNat ≤ c.toNat ∧ c.toNat ≤ 'Z'.toNat := by
        delta Char.isUpper at h
        simpa [UInt32.le_iff_toNat_le] using h
      simpa [CodePoints.has] using Or.inr (Or.inl hupper)
    · simpa [CodePoints.has] using Or.inl (Char.isDigit_iff_toNat.mp h)
    · decide
  obtain ⟨r, hr, hcovers⟩ := List.any_eq_true.mp hrange
  refine ⟨List.any_eq_true.mpr ⟨r, List.take_subset 3 _ hr, hcovers⟩, ?_⟩
  have hlow : ∀ r ∈ wordChars.take 3, r.2 < 'a'.toNat := by decide
  simp only [Bool.and_eq_true, decide_eq_true_eq] at hcovers
  exact Nat.lt_of_le_of_lt hcovers.2 (hlow r hr)

/-- Blanks are no word characters. -/
theorem not_isWordChar_of_blank {c : Char} (h : isBlank c = true) : isWordChar c = false := by
  have hapart : CodePoints.apart blankChars wordChars = true := by decide +kernel
  exact CodePoints.has_of_apart hapart h

/-- Word characters are no blanks and end no line. -/
theorem not_blank_of_isWordChar {c : Char} (h : isWordChar c = true) : isBlank c = false ∧ isLineEnd c = false := by
  have hblanks : CodePoints.apart wordChars blankChars = true := by decide +kernel
  have hends : CodePoints.apart wordChars lineEndChars = true := by decide +kernel
  exact ⟨CodePoints.has_of_apart hblanks h, CodePoints.has_of_apart hends h⟩

namespace DotEnv

/-- Blanks that end no line. -/
structure Gap where
  chars : List Char
  blank : ∀ c ∈ chars, isBlank c = true
  unbroken : Unbroken chars

/-- The name of a setting as variables give it: capital letters, digits and underscores, and no digit in front. -/
structure Name where
  first : Char
  rest : List Char
  letter : first.isUpper = true ∨ first = '_'
  others : ∀ c ∈ rest, Settings.isSettingChar c = true

/-- Any characters but line ends. -/
structure Content where
  chars : List Char
  unbroken : Unbroken chars

/-- The marks that a value can stand between. -/
inductive Mark where
  | single
  | double

/-- The character of a mark. -/
def Mark.char : Mark → Char
  | single => '\''
  | double => '"'

/-- A value between marks. -/
def Mark.around (mark : Mark) (value : List Char) : List Char := mark.char :: (value ++ [mark.char])

def Name.chars (name : Name) : List Char := name.first :: name.rest

/-- A line of a file of assignments. -/
inductive Line where
  | assignment (name : Name) (value : Content) (mark : Mark) (before between behind after : Gap)
  | comment (before : Gap) (said : Content)
  | blank (gap : Gap)

namespace Name

variable (name : Name)

/-- All characters of a name may stand in the name of a setting. -/
theorem chars_setting : ∀ c ∈ name.chars, Settings.isSettingChar c = true := by
  refine List.forall_mem_cons.mpr ⟨?_, name.others⟩
  rcases name.letter with h | h <;> simp [Settings.isSettingChar, h]

theorem chars_word : ∀ c ∈ name.chars, isWordChar c = true := fun c hc =>
  (isWordChar_of_setting (name.chars_setting c hc)).1

/-- A name is in upper case. -/
theorem upperCase_chars : upperCase (String.ofList name.chars) = String.ofList name.chars := by
  refine upperCase_eq_self fun c hc => ?_
  rw [String.toList_ofList] at hc
  exact (isWordChar_of_setting (name.chars_setting c hc)).2

/-- A name is split off up to the first character that is none of a word. -/
theorem splitName_append {rest : List Char} (hrest : ∀ c ∈ rest.head?, isWordChar c = false) :
    splitName (name.chars ++ rest) = some (name.chars, rest) := by
  have hstart : isNameStart name.first = true := by
    rcases name.letter with h | h
    · have halpha : name.first.isAlpha = true := (Bool.or_eq_true _ _).mpr (Or.inl h)
      simp [isNameStart, halpha]
    · simp [isNameStart, h]
  have hword : ∀ c ∈ name.rest, isWordChar c = true := fun c hc => name.chars_word c (List.mem_cons_of_mem _ hc)
  have hnone : rest.takeWhile isWordChar = [] ∧ rest.dropWhile isWordChar = rest := by
    cases rest with
    | nil => exact ⟨rfl, rfl⟩
    | cons c rest => simp [hrest c rfl]
  rw [chars, List.cons_append, splitName, if_pos hstart, List.takeWhile_append_of_pos hword,
    List.dropWhile_append_of_pos hword, hnone.1, hnone.2, List.append_nil]

end Name

namespace Mark

variable (mark : Mark) (value : List Char)

theorem char_cases : mark.char = '\'' ∨ mark.char = '"' := by
  cases mark
  · exact Or.inl rfl
  · exact Or.inr rfl

/-- A mark is no blank and ends no line. -/
theorem char_not_blank : isBlank mark.char = false ∧ isLineEnd mark.char = false := by
  cases mark <;> decide

/-- What a value between marks ends with. -/
theorem getLast?_around (cs : List Char) : (cs ++ mark.around value).getLast? = some mark.char := by
  have hend : cs ++ mark.around value = (cs ++ mark.char :: value) ++ [mark.char] := by simp [around]
  rw [hend, List.getLast?_concat]

/-- The marks around a value are taken off, whatever the value is. -/
theorem unquote_around : unquote (mark.around value) = value := by
  rw [around, unquote, if_pos ⟨mark.char_cases, List.getLast?_concat⟩, List.dropLast_concat]

/-- The blanks in front of a value between marks are taken off, and none of the value. -/
theorem stripBlanks_around {gap : List Char} (hgap : ∀ c ∈ gap, isBlank c = true) :
    stripBlanks (gap ++ mark.around value) = mark.around value := by
  have hfirst : ∀ c ∈ (mark.around value).head?, isBlank c = false := by
    rintro c ⟨⟩
    exact mark.char_not_blank.1
  have hlast : ∀ c ∈ (mark.around value).getLast?, isBlank c = false := by
    have hmark := mark.getLast?_around value []
    rw [List.nil_append] at hmark
    rw [hmark]
    rintro c ⟨⟩
    exact mark.char_not_blank.1
  have hpadded := @stripBlanks_padded gap (mark.around value) [] hgap (by simp) hfirst hlast
  rwa [List.append_nil] at hpadded

end Mark

namespace Line

/-- The characters of a line. -/
def chars : Line → List Char
  | assignment name value mark before between behind after =>
    before.chars ++ (name.chars ++ (between.chars ++ '=' :: (behind.chars ++ mark.around value.chars))) ++ after.chars
  | comment before said => before.chars ++ '#' :: said.chars
  | blank gap => gap.chars

/-- The assignment of a line. -/
def pair? : Line → Option (String × String)
  | assignment name value .. => some (String.ofList name.chars, String.ofList value.chars)
  | _ => none

/-- A line is one line. -/
theorem unbroken (line : Line) : Unbroken line.chars := by
  cases line with
  | assignment name value mark before between behind after =>
    have hname : Unbroken name.chars := fun c hc => (not_blank_of_isWordChar (name.chars_word c hc)).2
    have hquoted : Unbroken (mark.around value.chars) := by
      rw [Mark.around, unbroken_cons, unbroken_append, unbroken_cons]
      exact ⟨mark.char_not_blank.2, value.unbroken, mark.char_not_blank.2, by simp [Unbroken]⟩
    simp only [chars, unbroken_append, unbroken_cons]
    exact ⟨⟨before.unbroken, hname, between.unbroken, rfl, behind.unbroken, hquoted⟩, after.unbroken⟩
  | comment before said =>
    rw [chars, unbroken_append, unbroken_cons]
    exact ⟨before.unbroken, rfl, said.unbroken⟩
  | blank gap => exact gap.unbroken

/-- What is read of a line is its assignment. -/
theorem assignment?_chars (line : Line) : assignment? (stripBlanks line.chars) = line.pair? := by
  cases line with
  | assignment name value mark before between behind after =>
    have hline : stripBlanks (chars (assignment name value mark before between behind after)) =
        name.chars ++ (between.chars ++ '=' :: (behind.chars ++ mark.around value.chars)) := by
      refine stripBlanks_padded before.blank after.blank ?_ ?_
      · rintro c ⟨⟩
        exact (not_blank_of_isWordChar (name.chars_word name.first List.mem_cons_self)).1
      · have hassoc : name.chars ++ (between.chars ++ '=' :: (behind.chars ++ mark.around value.chars)) =
            (name.chars ++ (between.chars ++ '=' :: behind.chars)) ++ mark.around value.chars := by simp
        rw [hassoc, mark.getLast?_around]
        rintro c ⟨⟩
        exact mark.char_not_blank.1
    have hequals : isWordChar '=' = false := by decide +kernel
    have hbehind : ∀ c ∈ (between.chars ++ '=' :: (behind.chars ++ mark.around value.chars)).head?,
        isWordChar c = false := by
      intro c hc
      cases hgap : between.chars with
      | nil =>
        rw [hgap] at hc
        cases hc
        exact hequals
      | cons d gap =>
        rw [hgap] at hc
        cases hc
        exact not_isWordChar_of_blank (between.blank c (by simp [hgap]))
    have hvalue : (between.chars ++ '=' :: (behind.chars ++ mark.around value.chars)).dropWhile isBlank =
        '=' :: (behind.chars ++ mark.around value.chars) := by
      rw [List.dropWhile_append_of_pos between.blank]
      rfl
    rw [hline, assignment?, name.splitName_append hbehind]
    simp only [Option.bind_eq_bind, Option.bind_some, hvalue, name.upperCase_chars, mark.stripBlanks_around _ behind.blank,
      mark.unquote_around, pair?]
  | comment before said =>
    obtain ⟨rest, hrest⟩ := stripBlanks_begins before.blank (c := '#') rfl said.chars
    rw [chars, hrest]
    rfl
  | blank gap =>
    have hnothing : stripBlanks gap.chars = [] := stripBlanks_eq_nil.mpr gap.blank
    rw [chars, hnothing]
    rfl

end Line

/-! ## Files -/

/-- A line with a line end behind it. -/
structure EndedLine where
  line : Line
  lineEnd : Char
  ends : isLineEnd lineEnd = true

/-- The characters of a file; there is no line end behind the last line. -/
def fileChars (lines : List EndedLine) (last : Line) : List Char :=
  lines.foldr (fun l rest => l.line.chars ++ l.lineEnd :: rest) last.chars

/-- The assignments of a file. -/
def assignments (lines : List EndedLine) (last : Line) : List (String × String) :=
  (lines.map (·.line) ++ [last]).filterMap Line.pair?

/-- What is read of a file are the assignments of its lines. -/
theorem parse_file (lines : List EndedLine) (last : Line) :
    parse (unifyNewlines (fileChars lines last)) = assignments lines last := by
  let read (line : List Char) : Option (String × String) := assignment? (stripBlanks line)
  have hempty : read [] = none := rfl
  induction lines with
  | nil =>
    have hread : (lineRuns (unifyNewlines last.chars)).filterMap read = (read last.chars).toList :=
      filterMap_lineRuns_last hempty last.unbroken
    refine hread.trans ?_
    rw [show read last.chars = last.pair? from last.assignment?_chars]
    cases hpair : last.pair? <;> simp [assignments, hpair]
  | cons l lines ih =>
    have hread := filterMap_lineRuns_unified hempty l.line.unbroken l.ends (fileChars lines last)
    refine hread.trans ?_
    rw [show read l.line.chars = l.line.pair? from l.line.assignment?_chars,
      show (lineRuns (unifyNewlines (fileChars lines last))).filterMap read = assignments lines last from ih]
    cases hpair : l.line.pair? <;> simp [assignments, hpair]

/-- The names that a file assigns to are names of settings. -/
theorem assignments_names (lines : List EndedLine) (last : Line) :
    ∀ a ∈ assignments lines last, ∀ c ∈ a.1.toList, Settings.isSettingChar c = true := by
  intro a ha
  obtain ⟨line, -, hpair⟩ := List.mem_filterMap.mp ha
  cases line with
  | assignment name value mark before between behind after =>
    cases hpair
    rw [String.toList_ofList]
    exact name.chars_setting
  | comment before said => cases hpair
  | blank gap => cases hpair

end DotEnv

namespace Settings

/-! ## Variables -/

/-- The variable that gives a value to a setting. -/
def variableOf (assigned : String × String) : String × String := (variablePrefix ++ assigned.1, assigned.2)

/-- The entry that a text makes. -/
def textEntry (assigned : String × String) : String × Value := (assigned.1, .string assigned.2)

/-- The variable of a setting gives it its value. -/
theorem ofVariable_variableOf {assigned : String × String} (h : ∀ c ∈ assigned.1.toList, isSettingChar c = true) :
    ofVariable (variableOf assigned) = some (textEntry assigned) := by
  obtain ⟨name, text⟩ := assigned
  have hbegins : (variablePrefix ++ name).startsWith variablePrefix = true := by
    rw [String.startsWith_string_iff, String.toList_append]
    exact List.prefix_append _ _
  have hchars : (variablePrefix ++ name).toList.all isSettingChar = true := by
    rw [String.toList_append, List.all_append, List.all_eq_true.mpr h, Bool.and_true]
    decide
  have hname : String.ofList ((variablePrefix ++ name).toList.drop variablePrefix.length) = name := by
    rw [String.toList_append, ← String.length_toList, List.drop_left, String.ofList_toList]
  rw [ofVariable, variableOf, hbegins, hchars]
  simp only [Bool.and_self, if_true, hname, textEntry]

/-- A variable is set as the setting is, under its longer name. -/
theorem set_variableOf (name text : String) (t : Table) :
    Table.set (variablePrefix ++ name) text (t.map variableOf) = (t.set name text).map variableOf := by
  induction t with
  | nil => rfl
  | cons a t ih =>
    obtain ⟨key, old⟩ := a
    rw [List.map_cons, variableOf, Table.set, Table.set, ih]
    by_cases hkey : key = name
    · rw [if_pos hkey, if_pos (by rw [hkey])]
      rfl
    · rw [if_neg hkey, if_neg (by simpa using hkey)]
      rfl

/-- A text is put under a name as it is set. -/
theorem put_textEntry (name text : String) (t : Table) :
    Entries.put name (.string text) (t.map textEntry) = (t.set name text).map textEntry := by
  induction t with
  | nil => rfl
  | cons a t ih =>
    obtain ⟨key, old⟩ := a
    rw [List.map_cons, textEntry, Entries.put, Table.set, ih]
    by_cases hkey : key = name
    · rw [if_pos hkey, if_pos hkey]
      rfl
    · rw [if_neg hkey, if_neg hkey]
      rfl

/-- Only the key that is set comes to the keys of a table. -/
theorem forall_keys_set {fits : String → Prop} {t : Table} (ht : ∀ a ∈ t, fits a.1) {name : String} (hname : fits name)
    (text : String) : ∀ a ∈ t.set name text, fits a.1 := by
  induction t with
  | nil => simpa [Table.set] using hname
  | cons a t ih =>
    rw [List.forall_mem_cons] at ht
    rw [Table.set]
    split
    · exact List.forall_mem_cons.mpr ht
    · exact List.forall_mem_cons.mpr ⟨ht.1, ih ht.2⟩

/-- The variables of some settings give the entries that the same texts make: of several texts under one name the last one
counts, for variables as for entries. -/
theorem filterMap_variables {pairs : List (String × String)}
    (hnames : ∀ a ∈ pairs, ∀ c ∈ a.1.toList, isSettingChar c = true) :
    (Table.ofEntries (pairs.map variableOf)).filterMap ofVariable = ofTexts pairs := by
  have hall : ∀ (t : Table), (∀ a ∈ t, ∀ c ∈ a.1.toList, isSettingChar c = true) →
      ((pairs.map variableOf).foldl (fun t a => Table.set a.1 a.2 t) (t.map variableOf)).filterMap ofVariable =
        Entries.putAll (t.map textEntry) (pairs.map textEntry) := by
    induction pairs with
    | nil =>
      intro t ht
      rw [List.map_nil, List.foldl_nil, List.filterMap_map, Entries.putAll, List.map_nil, List.foldl_nil]
      exact List.filterMap_eq_map_iff_forall_eq_some.mpr fun a ha => ofVariable_variableOf (ht a ha)
    | cons a pairs ih =>
      intro t ht
      rw [List.forall_mem_cons] at hnames
      have hkeys := @forall_keys_set (fun name => ∀ c ∈ name.toList, isSettingChar c = true) t ht a.1 hnames.1 a.2
      have hset := ih hnames.2 (t.set a.1 a.2) hkeys
      rw [← set_variableOf, ← put_textEntry] at hset
      exact hset
  exact hall [] (by simp)

/-- A working directory with a file of assignments in it, and no other one. -/
def onlyDotEnv (bytes : ByteArray) (name : String) : Option ByteArray := if name = ".env" then some bytes else none

/-- The settings of a file of assignments lie over the defaults. -/
theorem merged_onlyDotEnv (h : Host) (bytes : ByteArray) {cs : List Char} (htext : textOf bytes = some cs) :
    merged h (onlyDotEnv bytes) [] = .ok (Entries.putAll (defaults h) (ofTexts (DotEnv.parse cs))) := by
  have hfile : contribution (onlyDotEnv bytes) (".env", readDotEnv) = .ok (ofTexts (DotEnv.parse cs)) := by
    simp only [contribution, onlyDotEnv, if_true, readDotEnv, htext, Option.map_some, Option.getD_some]
  simp only [merged, files, List.mapM_cons, hfile]
  rfl

/-- The settings of variables lie over the defaults where there are no files. -/
theorem merged_variables (h : Host) (environment : List (String × String)) :
    merged h (fun _ => none) environment =
      .ok (Entries.putAll (defaults h) (environment.filterMap ofVariable)) := rfl

end Settings

open DotEnv Settings in
/-- **Quoted lines say what variables say.** The assignments of a file of lines are read just as they stand there, each
with all that stands between its quotes. What comes of this file is what comes of variables with the same names and
values, be it a console or a fault; of several values of a name the last one counts. -/
theorem quoted_lines_count_as_variables (h : Host) (lines : List EndedLine) (last : Line) :
    (textOf (String.ofList (fileChars lines last)).toUTF8).map parse = some (assignments lines last) ∧
      load h (onlyDotEnv (String.ofList (fileChars lines last)).toUTF8) [] =
        load h (fun _ => none) (Table.ofEntries ((assignments lines last).map variableOf)) := by
  have htext : textOf (String.ofList (fileChars lines last)).toUTF8 = some (unifyNewlines (fileChars lines last)) := by
    rw [textOf_toUTF8, String.toList_ofList]
  refine ⟨by rw [htext, Option.map_some, parse_file], ?_⟩
  rw [load, merged_onlyDotEnv h _ htext, parse_file, load, merged_variables,
    filterMap_variables (assignments_names lines last)]

namespace Quotes

open DotEnv

/-- No blanks. -/
def tight : Gap := ⟨[], List.all_eq_true.mp rfl, by decide⟩

/-- A space. -/
def space : Gap := ⟨[' '], List.all_eq_true.mp rfl, by decide⟩

/-- A tabulator and a wide space. -/
def wide : Gap := ⟨['\t', '\u3000'], List.all_eq_true.mp rfl, by decide⟩

/-- A name. -/
def name : Name := ⟨'W', ['_', '1'], Or.inl rfl, List.all_eq_true.mp rfl⟩

/-- A value with blanks at its ends, and with all that means something elsewhere. -/
def value : Content := ⟨" 'a' # = \"".toList, by decide⟩

/-- A value that is a quote itself. -/
def quote : Content := ⟨['\''], by decide⟩

/-- Two assignments to one name, and between them a comment that looks like a third one. -/
def lines : List EndedLine :=
  [⟨.assignment name value .double wide space tight wide, '\r', rfl⟩, ⟨.blank tight, '\n', rfl⟩,
   ⟨.comment space ⟨"W_1=''".toList, by decide⟩, '\n', rfl⟩,
   ⟨.assignment name quote .single tight tight tight tight, '\u2028', rfl⟩]

/-- A home directory, and a working directory. -/
def host : Host := { home := "/home/user", directory := "/work" }

end Quotes

open DotEnv Settings Quotes in
/-- A value with quotes in it is taken as it is, and so is one that is a quote, which counts. -/
theorem quoted_lines_count_as_variables_quotes :
    assignments lines (.blank tight) = [("W_1", " 'a' # = \""), ("W_1", "'")] ∧
      load host (onlyDotEnv "\t\u3000W_1 =\" 'a' # = \"\"\t\u3000\r\n #W_1=''\nW_1='''\u2028".toUTF8) [] =
        load host (fun _ => none) [("TERMCORE_W_1", "'")] := by
  refine ⟨by decide, ?_⟩
  exact (quoted_lines_count_as_variables host lines (.blank tight)).2

end CommandConsole
