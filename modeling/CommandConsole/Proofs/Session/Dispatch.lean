import Mathlib.Data.List.Find
import CommandConsole.Proofs.Registry.Slots
import CommandConsole.Proofs.Session.Passage
import CommandConsole.Proofs.Text.Spaced

/-!
# Names and their commands

A registered command is reached by its name in any case, whatever asks for it. A name is a word, and it is one exactly if
it is one in lower case, so a line that begins with a spelling of the name has that spelling as its first token
(`splitCommand_spaced`); and no other command has the same name in lower case (`Reached.eq_of_key`). So the line is
carried out by this command with the other words as its arguments, and a look-up, a removal and a request for help with
the spelling concern this command and no other one (`reached_by_name`).
-/

namespace CommandConsole

namespace Registry.Reached

variable {events : List Event} {r : Registry}

/-- The name of a registered command is a word in each spelling. -/
theorem isWord_of_mem (h : Reached events r) {c : Command} (hc : c ∈ r.commands) {name : String}
    (hname : lowerCase name = c.key) : IsWord name := by
  obtain ⟨e, he, rfl⟩ := List.mem_map.mp hc
  rw [← isWord_lowerCase, hname]
  exact isWord_lowerCase.mpr (h.word e he)

/-- No two registered commands have the same name in lower case. -/
theorem eq_of_key (h : Reached events r) {c c' : Command} (hc : c ∈ r.commands) (hc' : c' ∈ r.commands)
    (hkey : c'.key = c.key) : c' = c := by
  have hfound : r.lookup c'.name = some c := h.lookup_of_mem hc hkey
  have hfound' : r.lookup c'.name = some c' := h.lookup_of_mem hc' rfl
  rw [hfound'] at hfound
  exact Option.some.inj hfound

/-- Among the commands, the one under a lower-case name comes first. -/
theorem find?_commands (h : Reached events r) (key : String) :
    r.commands.find? (·.key == key) = r.command? key := by
  rw [commands, List.find?_map, command?, entry?]
  congr 1
  apply List.find?_congr
  intro e he
  rw [h.keyed e he]
  rfl

/-- A removal under a spelling of the name of a command takes away that command only. -/
theorem mem_unregister (h : Reached events r) {c : Command} (hc : c ∈ r.commands) {name : String}
    (hname : lowerCase name = c.key) {c' : Command} :
    c' ∈ (r.unregister name).1.commands ↔ c' ∈ r.commands ∧ c' ≠ c := by
  have hkept : ∀ e ∈ r.entries, decide (e.key ≠ lowerCase name) = true ↔ e.command ≠ c := by
    intro e he
    rw [decide_eq_true_iff, hname, h.keyed e he]
    refine not_congr ⟨fun hkey => h.eq_of_key hc (List.mem_map_of_mem he) hkey, fun hcommand => ?_⟩
    rw [hcommand]
  simp only [commands, unregister, List.mem_map, List.mem_filter]
  constructor
  · rintro ⟨e, ⟨he, hne⟩, rfl⟩
    exact ⟨⟨e, he, rfl⟩, (hkept e he).mp hne⟩
  · rintro ⟨⟨e, he, rfl⟩, hne⟩
    exact ⟨e, ⟨he, (hkept e he).mpr hne⟩, rfl⟩

end Registry.Reached

/-- A line of words is the first one in lower case, and the others as arguments. -/
theorem Line.splitCommand_spaced {name : String} {args : List String} {line : String}
    (h : Spaced (name :: args) line) : Line.splitCommand (strip line) = (lowerCase name, args) := by
  rw [Line.splitCommand, words_strip, h.words_eq]

/-- A line of words is not blank. -/
theorem strip_of_spaced {name : String} {args : List String} {line : String} (h : Spaced (name :: args) line) :
    (strip line).isEmpty = false := by
  rw [strip_isEmpty]
  cases h with
  | @word lead w rest ws hlead hw hapart hrest =>
    obtain ⟨c, cs, hword⟩ := List.exists_cons_of_ne_nil hw.toList_ne_nil
    rw [allBlank, String.toList_append, String.toList_append, List.all_eq_false]
    exact ⟨c, by simp [hword], by simp [hw.unbroken c (by simp [hword])]⟩

namespace Session

/-- Executing a line is carrying out the command that its first word names. -/
theorem execute_eq (submit : Submit) (s : Session) (text : String) :
    execute submit s text =
      match s.registry.lookup (Line.splitCommand text).1 with
      | none => (s.writeLine s!"Command not found: {(Line.splitCommand text).1}", .ok false)
      | some command => s.obey submit (Line.splitCommand text).1 command (Line.splitCommand text).2 := rfl

/-- A line that begins with a name of a command is carried out by it. -/
theorem submitWithin_spaced {s : Session} {name : String} {c : Command} (hlookup : s.registry.lookup name = some c)
    {line : String} {args : List String} (h : Spaced (name :: args) line) (depth : Nat) :
    submitWithin (depth + 1) s line =
      let carried := (s.beginLine (strip line)).obey (submitWithin depth) (lowerCase name) c args
      carried.1.endLine (strip line) carried.2 := by
  -- the line gives the name in lower case, and the look-up puts it into lower case again
  have hfound : (s.beginLine (strip line)).registry.lookup (lowerCase name) = some c := by
    rw [Registry.lookup, lowerCase_lowerCase]
    exact hlookup
  rw [submitWithin_executed depth s (strip_of_spaced h), execute_eq, Line.splitCommand_spaced h, hfound]

/-- Writing lines is writing them one after the other. -/
theorem run_writeLines (submit : Submit) (lines : List String) (next : Script) (s : Session) :
    run submit (.writeLines lines next) s = run submit next (lines.foldl writeLine s) := by
  induction lines generalizing s with
  | nil => rfl
  | cons line lines ih => exact ih (s.writeLine line)

/-- What the help command makes of a command: it shows the description and the usage, up to the first one that cannot be
written, which is a fault. -/
def explained (s : Session) (c : Command) : Session × Except Stop Bool :=
  match c.description.written, c.usage.written with
  | .ok description, .ok usage => ((s.writeLine s!"{c.name}: {description}").writeLine s!"Usage: {usage}", .ok true)
  | .ok description, .error f => (s.writeLine s!"{c.name}: {description}").reportFault "help" f
  | .error f, _ => s.reportFault "help" f

/-- An explanation of a name is that of the command that it finds. -/
theorem explain_view {events : List Registry.Event} {s : Session} (h : Registry.Reached events s.registry)
    {name : String} {c : Command} (hlookup : s.registry.lookup name = some c) :
    Defaults.explain name s.view =
      [c.description.written.map fun text => s!"{c.name}: {text}", c.usage.written.map fun text => s!"Usage: {text}"] := by
  have hfound : s.view.commands.find? (·.key == lowerCase name) = some c.info := by
    rw [view, List.find?_map]
    show (s.registry.commands.find? (·.key == lowerCase name)).map _ = _
    rw [h.find?_commands, Registry.command?, ← Registry.lookup, hlookup]
    rfl
  rw [Defaults.explain, hfound]
  rfl

/-- Carried out for a name, the help command explains the command that it finds. -/
theorem obey_help {events : List Registry.Event} {s : Session} (h : Registry.Reached events s.registry)
    {name : String} {c : Command} (hlookup : s.registry.lookup name = some c) {help : Command}
    (hhelp : Defaults.commands.head? = some help) (submit : Submit) (more : List String) :
    s.obey submit "help" help (name :: more) = s.explained c := by
  cases hhelp
  have haction : run submit (Defaults.helpAction (name :: more)) s =
      run submit (.writeFormed .done
        [c.description.written.map fun text => s!"{c.name}: {text}",
          c.usage.written.map fun text => s!"Usage: {text}"]) s := by
    rw [← explain_view h hlookup]
    rfl
  simp only [obey, judge, haction, explained]
  cases c.description.written with
  | error f => rfl
  | ok description => cases c.usage.written <;> rfl

/-- **A command is reached by its name in any case.** In a session whose registry has been reached by events, a line that
begins with a spelling of the name of a registered command is carried out by that command, with the other words of the
line as its arguments. A look-up and a removal under the spelling find the command, and the removal takes away no other
one; if `help` is the default command, a line that asks it about the spelling explains the command. No other command has
the name in any case. -/
theorem reached_by_name (events : List Registry.Event) (s : Session)
    (hregistry : s.registry = ({} : Registry).undergoAll events) (c : Command) (hc : c ∈ s.registry.commands)
    (spelling : String) (hspelling : lowerCase spelling = lowerCase c.name) :
    (∀ depth line args, Spaced (spelling :: args) line →
        submitWithin (depth + 1) s line =
          let carried := (s.beginLine (strip line)).obey (submitWithin depth) c.key c args
          carried.1.endLine (strip line) carried.2) ∧
      s.registry.lookup spelling = some c ∧ s.registry.containsValue (.string spelling) = true ∧
      ((s.registry.unregister spelling).2 = some c ∧
        ∀ c', c' ∈ (s.registry.unregister spelling).1.commands ↔ c' ∈ s.registry.commands ∧ c' ≠ c) ∧
      (s.registry.lookup "help" = Defaults.commands.head? →
        ∀ depth line asked more, lowerCase asked = "help" → Spaced (asked :: spelling :: more) line →
          submitWithin (depth + 1) s line =
            let told := (s.beginLine (strip line)).explained c
            told.1.endLine (strip line) told.2) ∧
      (∀ c' ∈ s.registry.commands, lowerCase c'.name = lowerCase c.name → c' = c) ∧ IsWord spelling := by
  have h : Registry.Reached events s.registry := hregistry ▸ Registry.reached_undergoAll events
  have hlookup := h.lookup_of_mem hc hspelling
  refine ⟨fun depth line args hline => ?_, hlookup, ?_, ⟨hlookup, fun c' => h.mem_unregister hc hspelling⟩,
    fun hdefault depth line asked more hasked hline => ?_, fun c' hc' hkey => h.eq_of_key hc hc' hkey,
    h.isWord_of_mem hc hspelling⟩
  · rw [submitWithin_spaced hlookup hline, hspelling]
    rfl
  · rw [Registry.containsValue, Value.text?, Option.any_some, Registry.contains, List.contains_iff_mem,
      Registry.mem_names, Registry.command?, ← Registry.lookup, hlookup]
    rfl
  · obtain ⟨help, hhelp⟩ : ∃ help, Defaults.commands.head? = some help := ⟨_, rfl⟩
    have hfound : s.registry.lookup asked = some help := by
      rw [← hhelp, ← hdefault, Registry.lookup, Registry.lookup, hasked]
      rfl
    have hbegun : Registry.Reached events (s.beginLine (strip line)).registry := h
    rw [submitWithin_spaced hfound hline, hasked, obey_help hbegun hlookup hhelp]

namespace Street

/-- The default help command, as a draft. -/
def help : Draft where
  name := .string "help"
  action := .callable Defaults.helpAction
  description := .string "Display available commands"
  usage := .string "help [command]"
  completer := .callable Defaults.completeHelp

/-- A command whose name ends in a sigma. -/
def street : Command :=
  { name := "ΟΔΟΣ", action := fun args => .writeLines args .done, description := .string "A street"
    usage := .string "ΟΔΟΣ" }

/-- A console with the two commands. -/
def console : Session where
  completion :=
    { registry := ({} : Registry).undergoAll
        [.drafted help, .drafted
          { name := .string street.name, action := .callable street.action, description := street.description }] }
  history := { storage := {}, key := "lines", capacity := 3 }
  prompt := ">"

/-- A line with blanks of several kinds. -/
def line : String := "\u3000Οδος\u00A0x \t Σ\n"

end Street

set_option maxRecDepth 4000 in
open Street in
/-- The sigma at the end of the name is written in its final form, those of the arguments stay as they are. -/
theorem reached_by_name_finalSigma :
    street ∈ console.registry.commands ∧ lowerCase "Οδος" = lowerCase street.name ∧ street.key = "οδος" ∧
      Spaced ["Οδος", "x", "Σ"] line ∧ Spaced ["HELP", "Οδος"] "HELP Οδος" ∧
      let carried := (console.beginLine (strip line)).obey (submitWithin 246) "οδος" street ["x", "Σ"]
      let told := (console.beginLine "HELP Οδος").writeLine "ΟΔΟΣ: A street"
      submit console line = carried.1.endLine (strip line) carried.2 ∧
        submit console "HELP Οδος" = (told.writeLine "Usage: ΟΔΟΣ").endLine "HELP Οδος" (.ok true) := by
  have hregistered : street ∈ console.registry.commands := by
    have hcommands : console.registry.commands = Defaults.commands.take 1 ++ [street] := by rfl
    rw [hcommands]
    exact List.mem_append_right _ List.mem_cons_self
  have hspelling : lowerCase "Οδος" = lowerCase street.name := by decide +kernel
  have hkey : street.key = "οδος" := by decide +kernel
  have hline : Spaced ["Οδος", "x", "Σ"] line := words_eq_iff.mp (by decide +kernel)
  have hask : Spaced ["HELP", "Οδος"] "HELP Οδος" := words_eq_iff.mp (by decide +kernel)
  obtain ⟨hcarried, -, -, -, hhelp, -⟩ := reached_by_name _ console rfl street hregistered "Οδος" hspelling
  have hdone := hcarried 246 line _ hline
  have htold := hhelp (by rfl) 246 "HELP Οδος" "HELP" [] (by decide +kernel) hask
  rw [hkey] at hdone
  have hstripped : strip "HELP Οδος" = "HELP Οδος" := by decide +kernel
  rw [hstripped] at htold
  exact ⟨hregistered, hspelling, hkey, hline, hask, hdone, htold⟩

end Session

end CommandConsole
