import CommandConsole.History.Direction
import CommandConsole.Json.Reader
import CommandConsole.Json.Writer
import CommandConsole.Log.Record
import CommandConsole.Storage

/-!
# The history

The submitted lines, oldest first, as many as the capacity allows. A blank line and a repetition of the newest entry are not
recorded. A `Walk` through the entries keeps the draft that the input line held before it began. Every change is saved as one
JSON text under the history's key; what goes wrong there is noted, not raised. Entries are texts of characters: a surrogate in
a stored one is shown as U+FFFD.
-/

namespace CommandConsole

/-- A position in the history, counted back from the newest entry, and the draft that was left for it. -/
structure Walk where
  back : Nat
  draft : String
  deriving Repr, DecidableEq

/-- A bounded history, and where it is kept. Without a walk the input line is live. -/
structure History where
  storage : Storage
  key : String
  capacity : Nat
  entries : List String := []
  walk : Option Walk := none

/-- The last `n` items of a list. -/
def takeLast {α : Type} (n : Nat) (xs : List α) : List α := xs.drop (xs.length - n)

/-- A list without the items that are equal to the one before them. -/
def collapseRepeats {α : Type} [DecidableEq α] : List α → List α
  | [] => []
  | [x] => [x]
  | x :: y :: rest => if x = y then collapseRepeats (y :: rest) else x :: collapseRepeats (y :: rest)

/-- The code points of a text. -/
def Value.textPoints? : Value → Option (List Point)
  | .string s => some (pointsOf s)
  | .ragged t => some t.points
  | _ => none

/-- The texts of a list of texts, by their code points. -/
def Value.texts? : Value → Option (List (List Point))
  | .list items => items.mapM textPoints?
  | _ => none

/-- The texts of a list of texts, as they are shown. -/
def Value.strings? (v : Value) : Option (List String) := v.texts?.map fun texts => texts.map shownText

namespace History

/-- The position of the walk; the live line is before the newest entry. -/
def cursor (h : History) : Int :=
  match h.walk with
  | none => -1
  | some w => w.back

/-- The draft of the walk. -/
def pending (h : History) : String :=
  match h.walk with
  | none => ""
  | some w => w.draft

/-- The text stored for the history. -/
def stored? (h : History) : Option String := h.storage.raw? h.key

/-- Returns to the live line. -/
def resetNavigation (h : History) : History := { h with walk := none }

/-- A record on the channel of the history. -/
def warning (message : String) : LogRecord := ⟨.warning, Channel.history, message, none⟩

/-- The note on a fault of the store. There is none if the message of the fault cannot be formed. -/
def noteOn (what : String) (f : Fault) : List LogRecord :=
  match f.message with
  | .ok message => [warning s!"{what}: {message}"]
  | .error _ => []

/-- Saves the entries. -/
def persist (h : History) : Step History Unit :=
  match h.storage.set h.key (Json.encodeStrings h.entries) with
  | (s, .ok ()) => ⟨{ h with storage := s }, [], .ok ()⟩
  | (s, .error (.fault f)) => ⟨{ h with storage := s }, noteOn "Failed to save history" f, .ok ()⟩
  | (s, .error why) => ⟨{ h with storage := s }, [], .error why⟩

/-- Whether a line is recorded at all: it is not blank and not the newest entry again. -/
def admits (h : History) (line : String) : Bool := !allBlank line && h.entries.getLast? ≠ some line

/-- A history with one more entry; the oldest ones make room for it. -/
def push (h : History) (line : String) : History := { h with entries := takeLast h.capacity (h.entries ++ [line]) }

/-- Records a line, and says whether it was. -/
def record (h : History) (line : String) : Step History Bool :=
  if h.admits line then
    let saved := (h.resetNavigation.push line).persist
    ⟨saved.state, saved.notes, saved.result.map fun _ => true⟩
  else ⟨h.resetNavigation, [], .ok false⟩

/-- Forgets all entries. -/
def clear (h : History) : Step History Unit := ({ h.resetNavigation with entries := [] } : History).persist

/-- The entry at a position. -/
def entryAt (h : History) (back : Nat) : String := (h.entries.reverse[back]?).getD ""

/-- Moves through the history and gives the text that the input line should show. At the oldest entry and at the live line
there is nowhere to go, and the text stays as it is. -/
def navigate (h : History) (d : Direction) (current : String) : History × String :=
  if h.entries.isEmpty then (h, current)
  else
    match d, h.walk with
    | .older, none => ({ h with walk := some ⟨0, current⟩ }, h.entryAt 0)
    | .older, some w =>
      if w.back + 1 < h.entries.length then
        ({ h with walk := some { w with back := w.back + 1 } }, h.entryAt (w.back + 1))
      else (h, current)
    | .newer, none => (h, current)
    | .newer, some ⟨0, draft⟩ => (h.resetNavigation, draft)
    | .newer, some ⟨back + 1, draft⟩ => ({ h with walk := some ⟨back, draft⟩ }, h.entryAt back)

/-- The entries that a stored list of texts stands for: no empty ones, no repetitions, and as many as fit. -/
def admitted (capacity : Nat) (items : List String) : List String :=
  takeLast capacity (collapseRepeats (items.filter (· ≠ "")))

/-- The entries that a stored value stands for; a value that is none gives a note. Only a text that nests too deep is a
fault. -/
def load (capacity : Nat) (v : Value) : Except Fault (List String × List LogRecord) :=
  if !v.truthy then .ok ([], [])
  else
    match v.text? with
    | some s =>
      match Json.parse s with
      | .error (.tooDeep innermost) => .error (Json.tooDeepFault innermost)
      | .error _ => .ok ([], [warning "Failed to parse history"])
      | .ok loaded =>
        match loaded.strings? with
        | none => .ok ([], [warning "Ignoring stored history: expected a list of strings"])
        | some items => .ok (admitted capacity items, [])
    | none => .ok ([], [warning "Failed to parse history"])

/-- Reads the entries back. -/
def restore (h : History) : Step History Unit :=
  let (storage, read) := h.storage.get h.key
  let emptied : History := { h with storage, entries := [], walk := none }
  match read with
  | .ok v =>
    match load h.capacity v with
    | .ok (entries, notes) => ⟨{ emptied with entries }, notes, .ok ()⟩
    | .error f => ⟨emptied, [], .error (.fault f)⟩
  | .error (.fault f) => ⟨emptied, noteOn "Failed to read history" f, .ok ()⟩
  | .error why => ⟨emptied, [], .error why⟩

/-- Why there can be no history. -/
def noRoom : Fault := .badValue "History capacity must be >= 1"

/-- Opens the history that a store holds under a key. -/
def init (storage : Storage) (capacity : Int) (key : String) : Except Fault (Step History Unit) :=
  if capacity < 1 then .error noRoom else .ok (restore { storage, key, capacity := capacity.toNat })

end History

end CommandConsole
