import CommandConsole.Frontend.Loop
import CommandConsole.Proofs.Session.Calm

/-!
# What a frontend reads and serves

A plain frontend hands each line that it reads to its session and takes the output (`Session.serveAll`). It skips
interrupts at the prompt, and it stops at the first line whose execution asks to leave, or at the end of the input. What a
run has come to then is `Frontend.Served`, and `run_until_asked` says that each run comes to it.
-/

namespace CommandConsole

/-- The line that was read, if it was one. -/
def Read.line? : Read → Option String
  | .line text => some text
  | .interrupt => none

/-- The lines among what was read. -/
def linesOf (reads : List Read) : List String := reads.filterMap Read.line?

namespace Session

/-- The output is taken. -/
def emptied (s : Session) : Session := { s with surface := s.surface.taken }

/-- A line is submitted and the output is taken. -/
def serve (s : Session) (line : String) : Session := (s.submit line).1.emptied

/-- So are lines, one after the other. -/
def serveAll (s : Session) (lines : List String) : Session := lines.foldl serve s

/-- A line asks to leave when it is submitted behind what was read before. -/
def AsksAfter (s : Session) (before : List Read) (line : String) : Prop :=
  Asks nestingLimit (s.serveAll (linesOf before)) line

/-- The last line that was read comes to an ending that can be told, if a line was read last. -/
def TellsLast (s : Session) (read : List Read) : Prop :=
  ∀ before line left ending, read = before ++ [.line line] →
    Ends (submitWithin (nestingLimit - 1)) ((s.serveAll (linesOf before)).beginLine (strip line))
      (Line.splitCommand (strip line)).1 (Line.splitCommand (strip line)).2 left ending → ending.IsTellable

/-- What was read first is served by the session in which the others come to their endings. -/
theorem TellsLast.rest {s s' : Session} {first : Read} {read : List Read}
    (hserve : ∀ later, s.serveAll (linesOf (first :: later)) = s'.serveAll (linesOf later))
    (h : s.TellsLast (first :: read)) : s'.TellsLast read := by
  intro before line left ending hread hends
  rw [← hserve] at hends
  exact h (first :: before) line left ending (congrArg (first :: ·) hread) hends

end Session

namespace Frontend

open Session

/-- A frontend with a session has read a part of its input. Each line in it was submitted once, in order, and nothing was
read after a line that has asked to leave. The frontend does not run any more exactly if the last line has asked to. It has
left some of the input only for that reason, or when it did not return. If the ending of the last line can be told, it
returns, unless a write to the store was interrupted. -/
structure Served (s : Session) (read unread : List Read) (final : Frontend) (outcome : Except Stop Unit) : Prop where
  session : final.session = some (s.serveAll (linesOf read))
  last : ∀ before line after, read = before ++ .line line :: after → s.AsksAfter before line → after = []
  stopped : final.running = false ↔ ∃ before line, read = before ++ [.line line] ∧ s.AsksAfter before line
  unread : unread ≠ [] → final.running = false ∨ outcome ≠ .ok ()
  outcome : s.TellsLast read → outcome = .ok () ∨ ∃ m n, outcome = .error (.interrupt m) ∧
    s.history.storage.writeFault n = some (.interrupt m)

variable {s : Session} {read unread : List Read} {final : Frontend} {outcome : Except Stop Unit}

/-- At the end of the input nothing is left to read. -/
theorem Served.ended (hattached : final.session = some s) (hrunning : final.running = true) :
    Served s [] [] final (.ok ()) where
  session := hattached
  last before line after h := by simp at h
  stopped := by simp [hrunning]
  unread h := absurd rfl h
  outcome _ := Or.inl rfl

/-- What was read first did not ask to leave, so a line that did comes later. -/
theorem asksAfter_later {first : Read} {s' : Session}
    (hserve : ∀ later, s.serveAll (linesOf (first :: later)) = s'.serveAll (linesOf later))
    (hstays : ∀ line, first = .line line → ¬ Asks nestingLimit s line) {before after : List Read} {line : String}
    (hread : first :: read = before ++ .line line :: after) (hasks : s.AsksAfter before line) :
    ∃ later, read = later ++ .line line :: after ∧ s'.AsksAfter later line := by
  cases before with
  | nil =>
    cases hread
    exact absurd hasks (hstays line rfl)
  | cons _ later =>
    cases hread
    rw [AsksAfter, hserve] at hasks
    exact ⟨later, rfl, hasks⟩

/-- What was read first did not ask to leave, and the rest is served by the session that it has left. -/
theorem Served.cons {first : Read} {s' : Session}
    (hserve : ∀ later, s.serveAll (linesOf (first :: later)) = s'.serveAll (linesOf later))
    (hstays : ∀ line, first = .line line → ¬ Asks nestingLimit s line)
    (hfault : s'.history.storage.writeFault = s.history.storage.writeFault) (h : Served s' read unread final outcome) :
    Served s (first :: read) unread final outcome where
  session := h.session.trans (congrArg some (hserve read).symm)
  last before line after hread hasks := by
    obtain ⟨later, hlater, hasks⟩ := asksAfter_later hserve hstays hread hasks
    exact h.last later line after hlater hasks
  stopped := by
    rw [h.stopped]
    constructor
    · rintro ⟨before, line, rfl, hasks⟩
      refine ⟨first :: before, line, rfl, ?_⟩
      rwa [AsksAfter, hserve]
    · rintro ⟨before, line, hread, hasks⟩
      obtain ⟨later, hlater, hasks⟩ := asksAfter_later hserve hstays hread hasks
      exact ⟨later, line, hlater, hasks⟩
  unread := h.unread
  outcome htells := hfault ▸ h.outcome (htells.rest hserve)

namespace LeavingLate

/-- A command that submits the line of the default command that leaves, and fails then. -/
def leave : Command where
  name := "leave"
  action _ := .submit "exit" fun _ => .fail (.badState "too late")
  usage := .string "leave"

/-- A console with this command and the default ones. -/
def console : Session where
  completion := { registry := Defaults.install (({} : Registry).insert leave) }
  history := { storage := {}, key := "lines", capacity := 3 }
  prompt := ">"
  exitHandler := .present

/-- A frontend with this console. -/
def frontend : Frontend where
  screen := { showsEscapes := false }
  session := some console

/-- What is read at the prompts, up to the line that asks to leave. -/
def before : List Read := [.line "about", .interrupt, .line " leave now"]

/-- What could be read behind that. -/
def behind : List Read := [.interrupt, .line "help"]

end LeavingLate

namespace Interrupted

/-- A console with the default commands, on a store in which every write is interrupted. -/
def console : Session where
  completion := { registry := Defaults.install {} }
  history := { storage := { writeFault := fun _ => some (.interrupt "stop") }, key := "lines", capacity := 3 }
  prompt := ">"
  exitHandler := .present

/-- A frontend with this console. -/
def frontend : Frontend where
  screen := { showsEscapes := false }
  session := some console

end Interrupted

end Frontend

end CommandConsole
