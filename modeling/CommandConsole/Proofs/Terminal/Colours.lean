import CommandConsole.Frontend.Basic
import CommandConsole.Proofs.Terminal.Stripped
import CommandConsole.Proofs.Text.CharMap

/-!
# Colours off a terminal

Each style is an escape sequence, so a text in styles is stripped to what the text itself is stripped to, whatever it
holds (`stripEscapes_styled`). Where escape sequences are dropped, the output of a frontend is therefore printed without
its colours: what is on the screen is the same as if no colours had ever been set (`colours_unseen`).
-/

namespace CommandConsole

/-! ## Styles -/

/-- A sequence with a parameter is an escape sequence. -/
theorem isEscape_styleSequence {parameter : String} (h : parameter.toList.all isEscapeParameter = true) :
    IsEscape (styleSequence parameter).toList := by
  have hletter : 'm'.isAlpha = true := by decide
  have hsequence : (styleSequence parameter).toList = '\x1b' :: '[' :: (parameter.toList ++ ['m']) := by
    simp [styleSequence]
  rw [hsequence]
  exact .mk parameter.toList 'm' (List.all_eq_true.mp h) hletter

/-- Every style is a sequence with a parameter. -/
theorem exists_parameter {e : String × String} (he : e ∈ styles) :
    ∃ parameter, e.2 = styleSequence parameter ∧ parameter.toList.all isEscapeParameter = true := by
  have hdigits : ∀ color ∈ styleColors, ∀ layer ∈ ["3", "4"],
      (layer ++ color.2).toList.all isEscapeParameter = true := by
    decide
  have hplain : ∀ parameter ∈ ["0", "1", "2", "90", "92"], parameter.toList.all isEscapeParameter = true := by
    decide
  simp only [styles, resetSequence, List.mem_append, List.mem_cons, List.not_mem_nil, or_false, List.mem_map] at he
  rcases he with (he | ⟨color, hcolor, rfl⟩) | ⟨color, hcolor, rfl⟩
  · rcases he with rfl | rfl | rfl | rfl | rfl
    · exact ⟨"0", rfl, hplain _ (by simp)⟩
    · exact ⟨"1", rfl, hplain _ (by simp)⟩
    · exact ⟨"2", rfl, hplain _ (by simp)⟩
    · exact ⟨"90", rfl, hplain _ (by simp)⟩
    · exact ⟨"92", rfl, hplain _ (by simp)⟩
  · exact ⟨"3" ++ color.2, rfl, hdigits color hcolor _ (by simp)⟩
  · exact ⟨"4" ++ color.2, rfl, hdigits color hcolor _ (by simp)⟩

/-- So every style that a name stands for is an escape sequence. -/
theorem isEscape_of_style {name sequence : String} (h : styles.lookup name = some sequence) :
    IsEscape sequence.toList := by
  obtain ⟨parameter, hsequence, hparameter⟩ := exists_parameter (mem_of_lookup h)
  dsimp only at hsequence
  rw [hsequence]
  exact isEscape_styleSequence hparameter

/-- Escape sequences in front of a text are stripped, however many there are. -/
theorem strip_join {sequences : List String} (h : ∀ s ∈ sequences, IsEscape s.toList) (cs : List Char) :
    stripEscapesAfter 0 ((String.join sequences).toList ++ cs) = stripEscapesAfter 0 cs := by
  induction sequences with
  | nil => simp
  | cons s sequences ih =>
    rw [List.forall_mem_cons] at h
    rw [String.join_cons, String.toList_append, List.append_assoc, strip_escape h.1, ih h.2]

/-- **Styles leave no trace.** A text in any styles is stripped to what the text is stripped to. -/
theorem stripEscapes_styled (text : String) (names : List String) :
    stripEscapes (styled text names) = stripEscapes text := by
  have hsequences : ∀ s ∈ names.filterMap fun name => styles.lookup name, IsEscape s.toList := by
    intro s hs
    obtain ⟨name, -, hname⟩ := List.mem_filterMap.mp hs
    exact isEscape_of_style hname
  unfold styled
  dsimp only
  split
  · rfl
  · have hreset : IsEscape resetSequence.toList := isEscape_styleSequence (by decide)
    obtain ⟨tail, htail, -⟩ := hreset.eq_cons
    have hgone : stripEscapesAfter 0 ('\x1b' :: tail) = [] := by
      have hstrip := strip_escape hreset []
      rwa [List.append_nil, htail] at hstrip
    -- the sequences in front go one by one, and the last one begins anew behind the text
    rw [stripEscapes, stripEscapes, String.toList_append, String.toList_append, List.append_assoc, sequencesOf,
      strip_join hsequences, htail, strip_append_escape, hgone, List.append_nil]

/-! ## Output -/

namespace Output

/-- What a piece of output prints where escape sequences are dropped: texts are lines, without their escape sequences. -/
def plainText : Output → String
  | .write text => stripEscapes (Frontend.dropLineEnd text) ++ "\n"
  | _ => ""

/-- Output that sets colours. -/
def setsColors : Output → Bool
  | .setColors _ => true
  | _ => false

/-- Setting colours prints nothing. -/
theorem plainText_of_setsColors {o : Output} (h : o.setsColors = true) : o.plainText = "" := by
  cases o with
  | setColors colors => rfl
  | write text => cases h
  | clear => cases h
  | setInput text => cases h

/-- So without it, output prints the same. -/
theorem join_plainText_filter (os : List Output) :
    String.join ((os.filter (! ·.setsColors)).map plainText) = String.join (os.map plainText) := by
  induction os with
  | nil => rfl
  | cons o os ih =>
    cases ho : o.setsColors with
    | false => simp [ho, ih]
    | true => simp [ho, ih, plainText_of_setsColors ho]

end Output

/-- Printing nothing leaves the screen as it is. -/
@[simp] theorem Screen.put_empty (s : Screen) : s.put "" = s := by
  simp [Screen.put]

/-- Printing two texts is printing them together. -/
theorem Screen.put_put (s : Screen) (first second : String) : (s.put first).put second = s.put (first ++ second) := by
  simp [Screen.put, String.append_assoc]

namespace Frontend

variable {f : Frontend}

/-- Where escape sequences are dropped, a piece of output prints its plain text, in any colours. -/
theorem display_screen (hplain : f.screen.showsEscapes = false) (o : Output) :
    (f.display o).screen = f.screen.put o.plainText := by
  cases o with
  | write text => simp [display, Screen.printLine, hplain, stripEscapes_styled, Output.plainText]
  | clear => simp [display, Screen.clear, hplain, Output.plainText]
  | setInput text => simp [display, Output.plainText]
  | setColors colors => simp [display, Output.plainText]

/-- So does all output, one piece after the other. -/
theorem displayAll_screen (hplain : f.screen.showsEscapes = false) (os : List Output) :
    (f.displayAll os).screen = f.screen.put (String.join (os.map Output.plainText)) := by
  induction os generalizing f with
  | nil => simp [displayAll]
  | cons o os ih =>
    have hscreen := display_screen hplain o
    have hstill : (f.display o).screen.showsEscapes = false := by
      rw [hscreen]
      exact hplain
    show ((f.display o).displayAll os).screen = _
    rw [ih hstill, hscreen, Screen.put_put, List.map_cons, String.join_cons]

/-- **Colours are not seen off a terminal.** A text in any styles is stripped to what the text itself is stripped to. So a
frontend whose screen is no terminal prints each text as a line, without one line end at its end and without its escape
sequences, in whatever colours: the same as if no colours were ever set. -/
theorem colours_unseen (f : Frontend) (noColor : Option String)
    (hscreen : f.screen.showsEscapes = Screen.accepts noColor false) (os : List Output) :
    (∀ text names, stripEscapes (styled text names) = stripEscapes text) ∧
      (f.displayAll os).screen.text = f.screen.text ++ String.join (os.map Output.plainText) ∧
      (f.displayAll (os.filter (! ·.setsColors))).screen = (f.displayAll os).screen := by
  have hplain : f.screen.showsEscapes = false := by
    rw [hscreen, Screen.accepts, Bool.and_false]
  refine ⟨stripEscapes_styled, ?_, ?_⟩
  · rw [displayAll_screen hplain]
    rfl
  · rw [displayAll_screen hplain, displayAll_screen hplain, Output.join_plainText_filter]

namespace Piped

/-- A frontend whose screen is no terminal. -/
def frontend : Frontend := { screen := { showsEscapes := Screen.accepts none false } }

/-- Texts that begin and end inside of escape sequences, in colours that are known and in one that is not. -/
def outputs : List Output :=
  [.setColors ⟨some "red", some "blue"⟩, .write "[0mA\x1b[\n", .setColors ⟨some "purple", none⟩, .write "\x1b[1;mB\x1b"]

end Piped

open Piped in
/-- What looks like the rest of a sequence is left, and so is the beginning of one; neither joins a colour. -/
theorem colours_unseen_broken :
    frontend.screen.showsEscapes = Screen.accepts none false ∧
      (frontend.displayAll outputs).screen.text = "[0mA\x1b[\nB\x1b\n" ∧
      (frontend.displayAll (outputs.filter (! ·.setsColors))).screen = (frontend.displayAll outputs).screen ∧
      styled "[0mA\x1b[" ["red", "bg_blue"] = "\x1b[31m\x1b[44m[0mA\x1b[\x1b[0m" := by
  obtain ⟨-, htext, hsame⟩ := colours_unseen frontend none rfl outputs
  refine ⟨rfl, htext.trans ?_, hsame, by decide +kernel⟩
  decide +kernel

end Frontend

end CommandConsole
