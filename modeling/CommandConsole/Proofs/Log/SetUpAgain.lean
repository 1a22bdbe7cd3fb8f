import CommandConsole.Log.Logger
import CommandConsole.Proofs.Text.Pieces

/-!
# Loggers that are set up again

A logger may be set up any number of times, each `Call` with a level and perhaps a file. What it has then is told by
the calls: its own level is that of the last one, the handler for the console has the level of the first one, and the
handler for a file writes to the file that was opened first (`SetUp.configureAll`). So no record is handled twice, but
the level of a later call need not be the one that records are shown from (`set_up_again`, `later_level_unheard`).
-/

namespace CommandConsole

namespace Log

/-! ## Calls -/

/-- A call that sets a logger up, with a choice that means a level. -/
structure Call where
  choice : LevelChoice
  level : Level
  /-- The path of the file that is named, if one is. -/
  file : Option String := none
  valid : choice.level? = .ok level

/-- The level that a call gives to the logger itself. -/
def Call.ownLevel (c : Call) : Level := if c.file.isSome then .debug else c.level

/-- The log after a call. What it has set up before a fault stays. -/
def configureBy (channel : String) (g : Log) (c : Call) : Log := (g.configure channel c.choice c.file).1

/-- The log after calls, one after the other. -/
def configureAll (channel : String) (g : Log) (calls : List Call) : Log := calls.foldl (configureBy channel) g

/-- The place of the file that a call names, if it can be opened. -/
def opens? (g : Log) (c : Call) : Option String := c.file.bind fun path => (g.disk.openText path).2.toOption

/-- The place of the first file that can be opened. -/
def firstOpened (channel : String) (g : Log) : List Call → Option String
  | [] => none
  | c :: rest => (g.opens? c).or (firstOpened channel (g.configureBy channel c) rest)

/-! ## Channels -/

/-- The logger that was set for a channel is found there. -/
theorem lookup_setLogger (channel : String) (l : Logger) (loggers : List (String × Logger)) :
    (setLogger channel l loggers).lookup channel = some l := by
  induction loggers with
  | nil => simp [setLogger]
  | cons entry loggers ih =>
    rw [setLogger]
    split
    · rename_i hc
      simp [hc]
    · rename_i hc
      rw [List.lookup_cons, beq_false_of_ne (Ne.symm hc)]
      exact ih

/-- Of a channel and those above it, the channel itself comes first. -/
theorem channelsFrom_eq (channel : String) : channelsFrom channel = channel :: (channelsFrom channel).tail := by
  obtain ⟨part, parts, hparts⟩ := List.exists_cons_of_ne_nil (piecesAt_ne_nil '.' channel.toList)
  have hlength : (piecesAt '.' channel.toList).length = parts.length + 1 := by rw [hparts, List.length_cons]
  have hwhole : (piecesAt '.' channel.toList).take (parts.length + 1) = piecesAt '.' channel.toList :=
    List.take_of_length_le (Nat.le_of_eq hlength)
  have hrange : (List.range (parts.length + 1)).reverse = parts.length :: (List.range parts.length).reverse := by
    rw [List.range_succ, List.reverse_append, List.reverse_singleton, List.singleton_append]
  simp only [channelsFrom, hlength, hrange, List.map_cons, List.cons_append, List.tail_cons, hwhole,
    intercalate_piecesAt, String.ofList_toList]

/-- The level that a channel has from those above it. -/
def inherited (g : Log) (channel : String) : Level :=
  (((channelsFrom channel).tail.map fun c => (g.logger c).level).find? (·.rank ≠ 0)).getD .notSet

/-- The level of its own logger counts for a channel, unless that is none. -/
theorem threshold_eq (g : Log) (channel : String) :
    g.threshold channel =
      if (g.logger channel).level.rank = 0 then g.inherited channel else (g.logger channel).level := by
  rw [threshold, channelsFrom_eq, List.map_cons, List.find?_cons]
  by_cases hrank : (g.logger channel).level.rank = 0
  · simp [hrank, inherited]
  · simp [hrank]

/-! ## What calls leave -/

/-- A handler for the console, and one for the file at a place. -/
def handlersOf (console : Level) (place : Option String) : List Handler :=
  .console console :: (place.map (Handler.file .debug)).toList

/-- The logger of a channel has been set up: it has a level of its own, a handler for the console, and one for the file
at a place, if there is one. -/
structure SetUp (g : Log) (channel : String) (own console : Level) (place : Option String) : Prop where
  found : g.loggers.lookup channel = some ⟨own, handlersOf console place⟩

namespace SetUp

variable {g : Log} {channel : String} {own console : Level} {place : Option String}

theorem logger_eq (h : SetUp g channel own console place) : g.logger channel = ⟨own, handlersOf console place⟩ := by
  rw [logger, h.found, Option.getD_some]

/-- Opening a file gives the logger a handler for it, unless it has one. -/
theorem openFile (g : Log) (channel : String) (own console : Level) (c : Call) :
    SetUp (g.openFile channel ⟨own, handlersOf console place⟩ c.file).1 channel own console
      (place.or (g.opens? c)) := by
  have hfiles : (handlersOf console place).any (·.isFile) = place.isSome := by cases place <;> rfl
  constructor
  cases hfile : c.file with
  | none => cases place <;> simp [Log.openFile, withLogger, lookup_setLogger, opens?, hfile]
  | some path =>
    rw [Log.openFile, hfiles]
    cases place with
    | some place => simp [withLogger, lookup_setLogger]
    | none =>
      rcases hopened : g.disk.openText path with ⟨disk, f | opened⟩
      · simp [withLogger, lookup_setLogger, opens?, hfile, hopened, Except.toOption]
      · simp [withLogger, lookup_setLogger, opens?, hfile, hopened, Except.toOption, Logger.adding, handlersOf]

/-- A call gives its level to the logger. -/
theorem withLevel_call (l : Logger) (c : Call) :
    l.withLevel c.choice c.file.isSome = .ok { l with level := c.ownLevel } := by
  rw [Logger.withLevel, Call.ownLevel, c.valid]
  split <;> rfl

/-- A first call gives its level to the console too, and opens its file. -/
theorem configure_first (hfresh : (g.logger channel).handlers = []) (c : Call) :
    g.configure channel c.choice c.file = g.openFile channel ⟨c.ownLevel, handlersOf c.level none⟩ c.file := by
  have hconsole : ({ g.logger channel with level := c.ownLevel } : Logger).withConsole c.choice =
      .ok ⟨c.ownLevel, handlersOf c.level none⟩ := by
    rw [Logger.withConsole, hfresh, c.valid]
    simp [Logger.adding, hfresh, handlersOf, Except.map]
  rw [configure, withLevel_call]
  dsimp only
  rw [hconsole]

/-- A later call leaves the level of the console. -/
theorem configure_again (h : SetUp g channel own console place) (c : Call) :
    g.configure channel c.choice c.file = g.openFile channel ⟨c.ownLevel, handlersOf console place⟩ c.file := by
  have hconsole : ({ g.logger channel with level := c.ownLevel } : Logger).withConsole c.choice =
      .ok ⟨c.ownLevel, handlersOf console place⟩ := by
    rw [h.logger_eq]
    rfl
  rw [configure, withLevel_call]
  dsimp only
  rw [hconsole]

theorem first (hfresh : (g.logger channel).handlers = []) (c : Call) :
    SetUp (g.configureBy channel c) channel c.ownLevel c.level (g.opens? c) := by
  rw [configureBy, configure_first hfresh]
  exact openFile g channel c.ownLevel c.level c

/-- A file stays that has been opened. -/
theorem again (h : SetUp g channel own console place) (c : Call) :
    SetUp (g.configureBy channel c) channel c.ownLevel console (place.or (g.opens? c)) := by
  rw [configureBy, h.configure_again]
  exact openFile g channel c.ownLevel console c

/-- Later calls leave the level of the console, and a file only where none has been opened before. -/
theorem configureAll (h : SetUp g channel own console place) (calls : List Call) :
    SetUp (g.configureAll channel calls) channel ((calls.getLast?.map Call.ownLevel).getD own) console
      (place.or (g.firstOpened channel calls)) := by
  induction calls generalizing g own place with
  | nil => simpa [Log.configureAll, firstOpened] using h
  | cons c calls ih =>
    have hlater := ih (h.again c)
    rw [Option.or_assoc, Option.getD_map] at hlater
    rw [List.getLast?_cons, Option.map_some, Option.getD_some]
    exact hlater

/-- Every call comes to opening its file for a logger with a handler for the console. -/
theorem configure_after (hfresh : (g.logger channel).handlers = []) (calls : List Call) (c : Call) :
    ∃ console, (g.configureAll channel calls).configure channel c.choice c.file =
      (g.configureAll channel calls).openFile channel ⟨c.ownLevel, handlersOf console (g.firstOpened channel calls)⟩
        c.file := by
  cases calls with
  | nil => exact ⟨c.level, configure_first hfresh c⟩
  | cons call calls => exact ⟨call.level, ((first hfresh call).configureAll calls).configure_again c⟩

/-- A record is handed to the handlers. -/
theorem emit_eq (h : SetUp g channel own console place) {r : LogRecord} (hchannel : r.channel = channel) :
    g.emit r = if g.takes r then (handlersOf console place).foldl (handle r) g else g := by
  rw [emit, takerOf, hchannel, channelsFrom_eq, List.findSome?_cons, h.found]

end SetUp

/-! ## What becomes of a record -/

section

variable (g : Log) (r : LogRecord) (console : Level) (path : String)

/-- A handler for a file leaves what is shown. -/
theorem errors_handle_file (level : Level) : (handle r g (.file level path)).errors = g.errors := by
  rw [handle]
  split <;> rfl

/-- A handler for the console leaves the disk. -/
theorem disk_handle_console : (handle r g (.console console)).disk = g.disk := by
  rw [handle]
  split <;> rfl

/-- It leaves what is appended to a file. -/
theorem disk_appendRecord_handle_console :
    ((handle r g (.console console)).appendRecord path r).disk = (g.appendRecord path r).disk := by
  rw [handle]
  split <;> rfl

/-- The handlers show a record once, if its level is not below that of the handler for the console. -/
theorem errors_handlers (place : Option String) :
    ((handlersOf console place).foldl (handle r) g).errors =
      (if console.rank ≤ r.level.rank then g.showRecord r else g).errors := by
  cases place with
  | none => rfl
  | some path => exact errors_handle_file _ r path .debug

/-- They append it to the file once, from the level of developers on. -/
theorem disk_handlers_some :
    ((handlersOf console (some path)).foldl (handle r) g).disk =
      (if Level.debug.rank ≤ r.level.rank then g.appendRecord path r else g).disk := by
  show (if Level.debug.rank ≤ r.level.rank then (handle r g (.console console)).appendRecord path r
    else handle r g (.console console)).disk = _
  split
  · exact disk_appendRecord_handle_console g r console path
  · exact disk_handle_console g r console

/-- Without a file, they leave the disk. -/
theorem disk_handlers_none : ((handlersOf console none).foldl (handle r) g).disk = g.disk :=
  disk_handle_console g r console

end

/-- The file that the last call opens counts if none has been opened before. -/
theorem firstOpened_concat (channel : String) (g : Log) (calls : List Call) (c : Call) :
    g.firstOpened channel (calls ++ [c]) =
      (g.firstOpened channel calls).or ((g.configureAll channel calls).opens? c) := by
  induction calls generalizing g with
  | nil => simp [firstOpened, configureAll]
  | cons call calls ih =>
    rw [List.cons_append, firstOpened, ih, ← Option.or_assoc]
    rfl

/-- A logger that was asked for a file and met no fault has one. -/
theorem isSome_of_openFile {g : Log} {channel : String} {own console : Level} {place : Option String} {c : Call}
    (hfile : c.file.isSome) (hok : (g.openFile channel ⟨own, handlersOf console place⟩ c.file).2 = .ok ()) :
    (place.or (g.opens? c)).isSome := by
  obtain ⟨path, hpath⟩ := Option.isSome_iff_exists.mp hfile
  cases place with
  | some place => rfl
  | none =>
    rw [hpath, openFile] at hok
    rcases hopened : g.disk.openText path with ⟨disk, f | opened⟩
    · simp [handlersOf, Handler.isFile, hopened] at hok
    · simp [opens?, hpath, hopened, Except.toOption]

/-- What becomes of the records of a channel whose logger has a level of its own, a handler for the console and, if
there is a place for it, one for a file. -/
structure Handles (g : Log) (channel : String) (own console : Level) (place : Option String) : Prop where
  level : (g.logger channel).level = own
  oneConsole : ((g.logger channel).handlers.filter (·.isConsole)).length = 1
  oneFile : ((g.logger channel).handlers.filter (·.isFile)).length ≤ 1
  /-- A record is taken if its level is positive and not below that of the logger. Where this is none, the level of the
  channels above counts. -/
  taken : ∀ r : LogRecord, r.channel = channel →
    (g.takes r = true ↔
      0 < r.level.rank ∧ (if own.rank = 0 then g.inherited channel else own).rank ≤ r.level.rank)
  /-- A record that is taken is shown once, if its level is not below that of the handler. -/
  shown : ∀ r : LogRecord, r.channel = channel →
    (g.emit r).errors = (if g.takes r ∧ console.rank ≤ r.level.rank then g.showRecord r else g).errors
  /-- It is appended once to the file, from the level of developers on. -/
  appended : ∀ r : LogRecord, r.channel = channel → ∀ path, place = some path →
    (g.emit r).disk = (if g.takes r ∧ Level.debug.rank ≤ r.level.rank then g.appendRecord path r else g).disk
  untouched : ∀ r : LogRecord, r.channel = channel → place = none → (g.emit r).disk = g.disk

/-- A logger that has been set up handles its records so. -/
theorem SetUp.handles {g : Log} {channel : String} {own console : Level} {place : Option String}
    (h : SetUp g channel own console place) : Handles g channel own console place where
  level := by rw [h.logger_eq]
  oneConsole := by
    rw [h.logger_eq]
    cases place <;> rfl
  oneFile := by
    rw [h.logger_eq]
    cases place <;> simp [handlersOf, Handler.isFile]
  taken r hchannel := by
    rw [takes, Bool.and_eq_true, decide_eq_true_eq, decide_eq_true_eq, hchannel, threshold_eq, h.logger_eq]
  shown r hchannel := by
    rw [h.emit_eq hchannel]
    by_cases htaken : g.takes r = true
    · simp only [htaken, if_true, true_and, errors_handlers]
    · simp only [htaken, if_false, false_and, Bool.false_eq_true]
  appended r hchannel path hplace := by
    rw [h.emit_eq hchannel, hplace]
    by_cases htaken : g.takes r = true
    · simp only [htaken, if_true, true_and, disk_handlers_some]
    · simp only [htaken, if_false, false_and, Bool.false_eq_true]
  untouched r hchannel hplace := by
    rw [h.emit_eq hchannel, hplace]
    split
    · exact disk_handlers_none g r console
    · rfl

/-- **Setting a logger up again.** A logger without handlers is set up by calls with valid levels, one after the other.
Then it has one handler for the console and at most one for a file. Its own level is that of the last call, or the level
of developers if that call names a file. But records are shown from the level of the *first* call on, and they are
appended to the file that was opened *first*. There is such a file, and each record from the level of developers on gets
there, if the last call names a file and meets no fault. -/
theorem set_up_again (g : Log) (channel : String) (hfresh : (g.logger channel).handlers = []) (first : Call)
    (rest : List Call) :
    let last := (first :: rest).getLast (List.cons_ne_nil first rest)
    let after := g.configureAll channel (first :: rest)
    let place := g.firstOpened channel (first :: rest)
    Handles after channel last.ownLevel first.level place ∧
      (last.file.isSome →
        ((g.configureAll channel (first :: rest).dropLast).configure channel last.choice last.file).2 = .ok () →
          ∃ path, place = some path ∧
            ∀ r : LogRecord, r.channel = channel → Level.debug.rank ≤ r.level.rank →
              (after.emit r).disk = (after.appendRecord path r).disk) := by
  intro last after place
  have hlast : last.ownLevel = (rest.getLast?.map Call.ownLevel).getD first.ownLevel := by
    rw [Option.getD_map, ← List.getLastD_eq_getLast?, ← List.getLast_eq_getLastD]
  have hset : SetUp after channel last.ownLevel first.level place := by
    rw [hlast]
    exact (SetUp.first hfresh first).configureAll rest
  refine ⟨hset.handles, fun hfile hok => ?_⟩
  have hplace : place.isSome := by
    obtain ⟨console, hopening⟩ := SetUp.configure_after hfresh (first :: rest).dropLast last
    rw [hopening] at hok
    have hsome := isSome_of_openFile hfile hok
    rwa [← firstOpened_concat, List.dropLast_concat_getLast] at hsome
  obtain ⟨path, hpath⟩ := Option.isSome_iff_exists.mp hplace
  refine ⟨path, hpath, fun r hchannel hlevel => ?_⟩
  have hown : last.ownLevel = .debug := if_pos hfile
  have htaken : after.takes r = true := by
    rw [hset.handles.taken r hchannel, hown]
    exact ⟨Int.lt_of_lt_of_le (by decide) hlevel, hlevel⟩
  rw [hset.handles.appended r hchannel path hpath, if_pos ⟨htaken, hlevel⟩]

namespace TwoLevels

/-- A call for warnings. -/
def warnings (file : Option String) : Call :=
  { choice := .name "warning", level := .warning, file, valid := by rfl }

/-- A call for all that is of interest to developers. -/
def details (file : Option String) : Call := { choice := .level .debug, level := .debug, file, valid := rfl }

/-- A record of interest to developers. -/
def record : LogRecord := ⟨.debug, "app", "hello", none⟩

end TwoLevels

open TwoLevels in
/-- The second file is not even made, and what is for developers is not shown. -/
theorem set_up_again_secondFile :
    let calls := [warnings (some "/a.log"), details (some "/b.log")]
    let after := ({} : Log).configureAll "app" calls
    (({} : Log).logger "app").handlers = [] ∧ ({} : Log).firstOpened "app" calls = some "/a.log" ∧
      (after.logger "app").level = .debug ∧ (after.emit record).errors = after.errors ∧
      (after.emit record).disk = (after.appendRecord "/a.log" record).disk ∧
      (after.emit record).disk.nodes.map (·.1) = ["/a.log"] := by
  intro calls after
  have hplace : ({} : Log).firstOpened "app" calls = some "/a.log" := by decide +kernel
  obtain ⟨hhandles, hlast⟩ := set_up_again {} "app" rfl (warnings (some "/a.log")) [details (some "/b.log")]
  obtain ⟨path, hpath, hkept⟩ := hlast rfl (by rfl)
  cases hplace.symm.trans hpath
  refine ⟨rfl, hplace, hhandles.level, ?_, hkept record rfl (by decide), by decide +kernel⟩
  rw [hhandles.shown record rfl, if_neg]
  exact fun h => absurd h.2 (by decide)

open TwoLevels in
/-- Not every record is shown whose level is that of the last call or above. -/
theorem later_level_unheard :
    ¬ ∀ (g : Log) (channel : String) (first : Call) (rest : List Call), (g.logger channel).handlers = [] →
      ∀ r : LogRecord, r.channel = channel →
        let after := g.configureAll channel (first :: rest)
        (after.emit r).errors =
          (if ((first :: rest).getLast (List.cons_ne_nil first rest)).level.rank ≤ r.level.rank then after.showRecord r
            else after).errors := by
  intro hclaim
  have hshown := hclaim {} "app" (warnings none) [details none] rfl record rfl
  revert hshown
  decide +kernel

end Log

end CommandConsole
