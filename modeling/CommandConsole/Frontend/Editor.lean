import CommandConsole.Frontend.Basic

/-!
# The line editor

An editing frontend reads keys. Most of them edit the input line; the arrows up and down and the tabulator are handed to the
session, which may replace the line. Each change of the line is reported to the session, and what happens at the prompts is
kept as a list of events.
-/

namespace CommandConsole

/-- A key. -/
inductive Key where
  | char (c : Char)
  | tab
  | up
  | down
  | left
  | right
  | home
  | lineEnd
  | backspace
  | delete
  | enter
  | endOfInput
  | interrupt
  deriving Repr, DecidableEq

namespace Key

/-- The key that types a character; some control characters are keys of their own. -/
def ofChar (c : Char) : Key :=
  ([('\x01', home), ('\x02', left), ('\x03', interrupt), ('\x04', endOfInput), ('\x05', lineEnd), ('\x06', right),
    ('\x08', backspace), ('\t', tab), ('\n', enter), ('\r', enter), ('\x7f', backspace)].lookup c).getD (char c)

end Key

/-- A line with a cursor in it; the characters before the cursor are given from the last to the first. -/
structure EditLine where
  before : List Char := []
  after : List Char := []
  deriving Repr, DecidableEq

namespace EditLine

/-- The text of a line. -/
def text (l : EditLine) : String := String.ofList (l.before.reverse ++ l.after)

/-- A line with the cursor at its end. -/
def ofText (s : String) : EditLine := ⟨s.toList.reverse, []⟩

/-- A character that does not end a line of the text. -/
def isInLine (c : Char) : Bool := c ≠ '\n'

/-- The line after an editing key; the other keys do not change it. A text may have several lines: the cursor moves within
one of them, and deleting a line feed joins two. -/
def press (l : EditLine) : Key → EditLine
  | .char c => { l with before := c :: l.before }
  | .left =>
    match l.before with
    | [] => l
    | c :: before => if isInLine c then ⟨before, c :: l.after⟩ else l
  | .right =>
    match l.after with
    | [] => l
    | c :: after => if isInLine c then ⟨c :: l.before, after⟩ else l
  | .home => ⟨l.before.dropWhile isInLine, (l.before.takeWhile isInLine).reverse ++ l.after⟩
  | .lineEnd => ⟨(l.after.takeWhile isInLine).reverse ++ l.before, l.after.dropWhile isInLine⟩
  | .backspace => { l with before := l.before.tail }
  | .delete => { l with after := l.after.tail }
  | _ => l

end EditLine

/-- What happens at the prompts of an editor. -/
inductive EditorEvent where
  | prompt (text : String)
  | setInput (text : String)
  | changed (text : String)
  | read (line : String)
  | interrupted
  | inputEnded
  deriving Repr, DecidableEq

/-- How a prompt is left. -/
inductive PromptOutcome where
  | line (text : String)
  | interrupt
  | endOfInput
  deriving Repr, DecidableEq

/-- An editing frontend at work. -/
structure Editor where
  frontend : Frontend
  line : EditLine := {}
  events : List EditorEvent := []

namespace Editor

/-- An editor with a further event. -/
def happened (e : Editor) (event : EditorEvent) : Editor := { e with events := e.events ++ [event] }

/-- The events of the output of a session; a replaced line is a change if its text was another. -/
def echoes (text : String) : List Output → List EditorEvent
  | [] => []
  | .setInput new :: rest =>
    .setInput new :: ((if new = text then [] else [.changed new]) ++ echoes new rest)
  | _ :: rest => echoes text rest

/-- Some output replaces the input line. -/
def replacesInput (os : List Output) : Bool := os.any fun
  | .setInput _ => true
  | _ => false

/-- Lets the attached session work. A replaced line has its cursor at the end. -/
def withSession {α : Type} (e : Editor) (work : Session → Session × α) : Editor × Option α :=
  match e.frontend.session with
  | none => (e, none)
  | some s =>
    let (after, result) := work s
    let sent := after.surface.output
    ({ frontend := e.frontend.absorb after
       line := if replacesInput sent then .ofText after.surface.input else e.line
       events := e.events ++ echoes e.frontend.input sent }, some result)

/-- Takes over an edited line and reports it if its text has changed. -/
def edit (e : Editor) (line : EditLine) : Editor :=
  if line.text = e.line.text then { e with line }
  else
    let e := { e with line, frontend := e.frontend.withInput line.text }.happened (.changed line.text)
    (e.withSession fun s => (s.inputChanged line.text, ())).1

/-- What changing the input line meets while no prompt is open. -/
def noPrompt : Fault := .badState "no running event loop"

/-- Leaves the prompt; the keys that have not been read wait for the next one. -/
def leave (e : Editor) (outcome : PromptOutcome) (rest : List Key) : Editor × PromptOutcome × List Key :=
  let event : EditorEvent := match outcome with
    | .line text => .read text
    | .interrupt => .interrupted
    | .endOfInput => .inputEnded
  ({ e with frontend := e.frontend.withChangeFault (some noPrompt) }.happened event, outcome, rest)

/-- Reads keys until one of them leaves the prompt. Keys that end before that are followed by an interrupt; the end of the
input deletes where a line has been begun. A completion that is interrupted leaves the prompt too. -/
def readKeys (e : Editor) : List Key → Editor × PromptOutcome × List Key
  | [] => e.leave .interrupt []
  | .interrupt :: rest => e.leave .interrupt rest
  | .enter :: rest => e.leave (.line e.line.text) rest
  | .endOfInput :: rest =>
    if e.line.text.isEmpty then e.leave .endOfInput rest else (e.edit (e.line.press .delete)).readKeys rest
  | .up :: rest => (e.withSession fun s => s.navigateTo .older).1.readKeys rest
  | .down :: rest => (e.withSession fun s => s.navigateTo .newer).1.readKeys rest
  | .tab :: rest =>
    match e.withSession fun s => s.complete with
    | (e, some (.error (.interrupt _))) => e.leave .interrupt rest
    | (e, _) => e.readKeys rest
  | key :: rest => (e.edit (e.line.press key)).readKeys rest

/-- Begins a prompt with an empty line. -/
def beginPrompt (e : Editor) : Editor :=
  { e with line := {}, frontend := (e.frontend.withInput "").withChangeFault none }.happened (.prompt e.frontend.promptText)

/-- Reads a line. -/
def readLine (e : Editor) (keys : List Key) : Editor × PromptOutcome × List Key := e.beginPrompt.readKeys keys

/-- Reads and submits lines as long as the frontend runs; each prompt has its keys, behind those that are `waiting`. -/
def loop (e : Editor) (waiting : List Key) : List (List Key) → Editor × Except Stop Unit
  | [] => (e, .ok ())
  | keys :: prompts =>
    match e.readLine (waiting ++ keys) with
    | (e, .interrupt, rest) => e.loop rest prompts
    | (e, .endOfInput, _) => (e, .ok ())
    | (e, .line text, rest) =>
      match e.withSession fun s => s.submit text with
      | (e, some (.error why)) => (e, .error why)
      | (e, _) => if e.frontend.running then e.loop rest prompts else (e, .ok ())

/-- Runs the editor, which must have a session. -/
def run (e : Editor) (prompts : List (List Key)) : Editor × Except Stop Unit :=
  if e.frontend.session.isSome then { e with frontend := { e.frontend with running := true } }.loop [] prompts
  else (e, .error (.fault Frontend.detached))

/-- Reads every prompt once and does nothing with the lines. -/
def readAll (e : Editor) (waiting : List Key) : List (List Key) → Editor
  | [] => e
  | keys :: prompts =>
    let (e, _, rest) := e.readLine (waiting ++ keys)
    e.readAll rest prompts

end Editor

end CommandConsole
