import CommandConsole.Frontend.Basic

/-!
# Reading lines

What a plain frontend reads at its prompts is a list: lines and interrupts, with the end of the input behind the last.
`run` submits the lines, one after the other, until the session asks to leave or the input ends; it gives back what it has
not read.
-/

namespace CommandConsole

/-- What is read at a prompt. -/
inductive Read where
  | line (text : String)
  | interrupt
  deriving Repr, DecidableEq

namespace Frontend

/-- Reads one line. -/
def readLine (f : Frontend) : List Read → Frontend × List Read × Except Stop String
  | [] => (f.showPrompt, [], .error (.fault inputEnded))
  | .interrupt :: rest => (f.showPrompt, rest, .error (.interrupt ""))
  | .line text :: rest => (f.showPrompt, rest, .ok text)

/-- Reads and submits lines as long as the frontend runs. An interrupt at the prompt is skipped. -/
def loop (f : Frontend) : List Read → Frontend × List Read × Except Stop Unit
  | [] => (f.showPrompt, [], .ok ())
  | .interrupt :: rest => f.showPrompt.loop rest
  | .line text :: rest =>
    match f.showPrompt.submit text with
    | (f, .error why) => (f, rest, .error why)
    | (f, .ok _) => if f.running then f.loop rest else (f, rest, .ok ())

/-- Runs the frontend, which must have a session. -/
def run (f : Frontend) (reads : List Read) : Frontend × List Read × Except Stop Unit :=
  if f.session.isSome then { f with running := true }.loop reads else (f, reads, .error (.fault detached))

end Frontend

end CommandConsole
