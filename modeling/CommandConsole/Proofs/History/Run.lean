import CommandConsole.Proofs.History.Entries
import CommandConsole.Proofs.Value

/-!
# Histories at work

A run of a history is a list of operations (`History.Op`), between which its store may be exchanged behind its back
(`History.Event`). `history_stays_orderly` says what holds in every state of every run, whatever the store holds and
whenever it fails: neighbouring entries differ, none is empty, they fit, and the position of the walk lies within them.
The operations themselves fail only where a direction has no name, or where the stored text nests too deep.
-/

namespace CommandConsole

/-! ## Stores -/

/-- The store answers in the same way as another one: they fail alike, and their answers are the same. -/
structure Storage.Alike (s t : Storage) : Prop where
  readFault : t.readFault = s.readFault
  writeFault : t.writeFault = s.writeFault
  answer : t.answer = s.answer

theorem Storage.Alike.refl (s : Storage) : s.Alike s :=
  ⟨rfl, rfl, rfl⟩

theorem Storage.Alike.trans {s t u : Storage} (h : s.Alike t) (h' : t.Alike u) : s.Alike u :=
  ⟨h'.readFault.trans h.readFault, h'.writeFault.trans h.writeFault, h'.answer.trans h.answer⟩

/-- Reading leaves the store as it is, but for the count of the reads. -/
theorem Storage.get_alike (s : Storage) (key : String) : s.Alike (s.get key).1 :=
  ⟨rfl, rfl, rfl⟩

theorem Storage.set_alike (s : Storage) (key text : String) : s.Alike (s.set key text).1 := by
  unfold Storage.set
  split <;> exact ⟨rfl, rfl, rfl⟩

/-- Reads and writes may fail, but are not interrupted. -/
structure Storage.Uninterrupted (s : Storage) : Prop where
  reads : ∀ n why, s.readFault n = some why → ∃ f, why = .fault f
  writes : ∀ n why, s.writeFault n = some why → ∃ f, why = .fault f

theorem Storage.Uninterrupted.alike {s t : Storage} (h : s.Uninterrupted) (ha : s.Alike t) : t.Uninterrupted :=
  ⟨ha.readFault ▸ h.reads, ha.writeFault ▸ h.writes⟩

/-- The next read of a key gives a text that nests too deep. -/
def Storage.NestsTooDeep (s : Storage) (key : String) (innermost : Json.Container) : Prop :=
  ∃ v text, (s.get key).2 = .ok v ∧ v.text? = some text ∧ Json.parse text = .error (.tooDeep innermost)

namespace History

/-! ## Operations -/

/-- What can be done with a history. -/
inductive Op where
  | record (line : String)
  | navigate (direction : Value) (current : String)
  | clear
  | persist
  | restore
  | resetNavigation

/-- Does one of the operations; what it gives back is left out. -/
def perform (h : History) : Op → Step History Unit
  | .record line => ⟨(h.record line).state, (h.record line).notes, (h.record line).result.map fun _ => ()⟩
  | .navigate direction current =>
    match Direction.parse direction with
    | .error f => ⟨h, [], .error (.fault f)⟩
    | .ok d => ⟨(h.navigate d current).1, [], .ok ()⟩
  | .clear => h.clear
  | .persist => h.persist
  | .restore => h.restore
  | .resetNavigation => ⟨h.resetNavigation, [], .ok ()⟩

/-- The state after operations. -/
def performAll (h : History) (ops : List Op) : History := ops.foldl (fun h op => (h.perform op).state) h

/-- Something that happens to a history: an operation, or the exchange of its store for another one. -/
inductive Event where
  | op (op : Op)
  | exchanged (storage : Storage)

/-- The state after an event. -/
def undergo (h : History) : Event → History
  | .op op => (h.perform op).state
  | .exchanged storage => { h with storage }

/-- The state after events. -/
def undergoAll (h : History) (events : List Event) : History := events.foldl undergo h

/-! ## What operations keep -/

/-- The entries that reading back gives. -/
def found (h : History) : List String :=
  match (h.storage.get h.key).2 with
  | .ok v =>
    match load h.capacity v with
    | .ok (entries, _) => entries
    | .error _ => []
  | .error _ => []

theorem persist_state (h : History) :
    h.persist.state = { h with storage := (h.storage.set h.key (Json.encodeStrings h.entries)).1 } := by
  unfold persist
  split <;> rename_i hset <;> rw [hset]

theorem restore_state (h : History) :
    h.restore.state = { h with storage := (h.storage.get h.key).1, entries := h.found, walk := none } := by
  unfold restore found
  cases hread : (h.storage.get h.key).2 with
  | error why => cases why <;> simp [hread]
  | ok v => cases hload : load h.capacity v <;> simp [hread, hload]

/-- Recording a line either resets the walk only, or adds the line and saves. -/
theorem record_state (h : History) (line : String) :
    (h.record line).state =
      if h.admits line then (h.resetNavigation.push line).persist.state else h.resetNavigation := by
  unfold record
  split <;> rfl

/-- The key and the capacity stay, and so does the way in which the store answers. -/
structure SamePlace (h h' : History) : Prop where
  key : h'.key = h.key
  capacity : h'.capacity = h.capacity
  storage : h.storage.Alike h'.storage

theorem persist_samePlace (h : History) : h.SamePlace h.persist.state := by
  rw [persist_state]
  exact ⟨rfl, rfl, Storage.set_alike _ _ _⟩

/-- A history with other entries or another walk: if the entries were tidy they are, and if the walk stood at one of
them it does. -/
structure Edited (h h' : History) : Prop where
  key : h'.key = h.key
  capacity : h'.capacity = h.capacity
  storage : h'.storage = h.storage
  tidy : Tidy h.capacity h.entries → Tidy h'.capacity h'.entries
  inside : (∀ w, h.walk = some w → w.back < h.entries.length) → ∀ w, h'.walk = some w → w.back < h'.entries.length

theorem Edited.refl (h : History) : h.Edited h := ⟨rfl, rfl, rfl, id, id⟩

/-- An edit that ends the walk has to keep the entries tidy only. -/
theorem Edited.of_live {h h' : History} (hkey : h'.key = h.key) (hcap : h'.capacity = h.capacity)
    (hstore : h'.storage = h.storage) (ht : Tidy h.capacity h.entries → Tidy h'.capacity h'.entries)
    (hw : h'.walk = none) : h.Edited h' :=
  ⟨hkey, hcap, hstore, ht, fun _ w hw' => by rw [hw] at hw'; cases hw'⟩

theorem resetNavigation_edited (h : History) : h.Edited h.resetNavigation := .of_live rfl rfl rfl id rfl

theorem push_edited {h : History} {line : String} (ha : h.admits line = true) :
    h.Edited (h.resetNavigation.push line) := by
  refine .of_live rfl rfl rfl (fun ht => ?_) rfl
  simp only [admits, Bool.and_eq_true, Bool.not_eq_true', decide_eq_true_eq] at ha
  exact ht.push (ne_empty_of_not_allBlank ha.1) ha.2

/-- Moving changes the walk only. -/
theorem navigate_edited (h : History) (d : Direction) (current : String) :
    h.Edited (h.navigate d current).1 ∧ (h.navigate d current).1.entries = h.entries := by
  unfold navigate
  split
  · exact ⟨.refl h, rfl⟩
  · rename_i hne
    have hpos : 0 < h.entries.length := List.length_pos_iff.mpr (by simpa using hne)
    split
    · exact ⟨⟨rfl, rfl, rfl, id, fun _ w hw => by cases hw; exact hpos⟩, rfl⟩
    · split
      · rename_i hlt
        exact ⟨⟨rfl, rfl, rfl, id, fun _ w hw => by cases hw; exact hlt⟩, rfl⟩
      · exact ⟨.refl h, rfl⟩
    · exact ⟨.refl h, rfl⟩
    · exact ⟨resetNavigation_edited h, rfl⟩
    · rename_i back draft hwalk
      exact ⟨⟨rfl, rfl, rfl, id, fun hin w hw => by cases hw; exact Nat.lt_of_succ_lt (hin _ hwalk)⟩, rfl⟩

/-- What an operation does: it changes the walk only, or it edits the history and saves it, or it reads the entries
back. -/
theorem perform_cases (h : History) (op : Op) :
    (h.Edited (h.perform op).state ∧ (h.perform op).state.entries = h.entries) ∨
      (∃ h', h.Edited h' ∧ (h.perform op).state = h'.persist.state) ∨ (h.perform op).state = h.restore.state := by
  cases op with
  | record line =>
    rw [perform, record_state]
    split
    · rename_i ha
      exact Or.inr (Or.inl ⟨_, push_edited ha, rfl⟩)
    · exact Or.inl ⟨resetNavigation_edited h, rfl⟩
  | navigate direction current =>
    left
    rw [perform]
    split
    · exact ⟨.refl h, rfl⟩
    · exact navigate_edited h _ current
  | clear =>
    right; left
    exact ⟨{ h.resetNavigation with entries := [] }, .of_live rfl rfl rfl (fun _ => Tidy.nil _) rfl, rfl⟩
  | persist => exact Or.inr (Or.inl ⟨h, .refl h, rfl⟩)
  | restore => exact Or.inr (Or.inr rfl)
  | resetNavigation => exact Or.inl ⟨resetNavigation_edited h, rfl⟩

theorem perform_samePlace (h : History) (op : Op) : h.SamePlace (h.perform op).state := by
  rcases h.perform_cases op with ⟨hedit, -⟩ | ⟨h', hedit, hsaved⟩ | hread
  · exact ⟨hedit.key, hedit.capacity, hedit.storage ▸ Storage.Alike.refl _⟩
  · have hplace := persist_samePlace h'
    rw [hsaved]
    exact ⟨hplace.key.trans hedit.key, hplace.capacity.trans hedit.capacity, hedit.storage ▸ hplace.storage⟩
  · rw [hread, restore_state]
    exact ⟨rfl, rfl, Storage.get_alike _ h.key⟩

/-! ## Soundness -/

/-- The entries are tidy, and a walk stands at one of them. -/
structure Sound (h : History) : Prop where
  tidy : Tidy h.capacity h.entries
  inside : ∀ w, h.walk = some w → w.back < h.entries.length

/-- Without a walk, tidy entries are all it takes. -/
theorem Sound.of_live {h : History} (ht : Tidy h.capacity h.entries) (hw : h.walk = none) : h.Sound :=
  ⟨ht, fun w hw' => by rw [hw] at hw'; cases hw'⟩

theorem found_tidy (h : History) : Tidy h.capacity h.found := by
  unfold found
  split
  · split
    · rename_i hload
      exact load_tidy hload
    · exact Tidy.nil _
  · exact Tidy.nil _

theorem persist_sound {h : History} (hs : h.Sound) : h.persist.state.Sound := by
  rw [persist_state]
  exact ⟨hs.tidy, hs.inside⟩

theorem Sound.edited {h h' : History} (hs : h.Sound) (hedit : h.Edited h') : h'.Sound :=
  ⟨hedit.tidy hs.tidy, hedit.inside hs.inside⟩

theorem perform_sound {h : History} (hs : h.Sound) (op : Op) : (h.perform op).state.Sound := by
  rcases h.perform_cases op with ⟨hedit, -⟩ | ⟨h', hedit, hsaved⟩ | hread
  · exact hs.edited hedit
  · rw [hsaved]
    exact persist_sound (hs.edited hedit)
  · rw [hread, restore_state]
    exact Sound.of_live (found_tidy h) rfl

/-- Events keep a history sound: an exchanged store does not touch the entries. -/
theorem undergoAll_sound (events : List Event) : ∀ {h : History}, h.Sound → (h.undergoAll events).Sound := by
  induction events with
  | nil => exact fun hs => hs
  | cons event events ih =>
    intro h hs
    cases event with
    | op op => exact ih (perform_sound hs op)
    | exchanged storage => exact ih (h := { h with storage }) ⟨hs.tidy, hs.inside⟩

theorem undergoAll_capacity (events : List Event) : ∀ h : History, (h.undergoAll events).capacity = h.capacity := by
  induction events with
  | nil => exact fun _ => rfl
  | cons event events ih =>
    intro h
    cases event with
    | op op => exact (ih _).trans (perform_samePlace h op).capacity
    | exchanged storage => exact ih _

theorem undergoAll_uninterrupted (events : List Event) :
    ∀ {h : History}, h.storage.Uninterrupted → (∀ t, Event.exchanged t ∈ events → t.Uninterrupted) →
      (h.undergoAll events).storage.Uninterrupted := by
  induction events with
  | nil => exact fun hu _ => hu
  | cons event events ih =>
    intro h hu he
    have hrest : ∀ t, Event.exchanged t ∈ events → t.Uninterrupted := fun t ht => he t (List.mem_cons_of_mem _ ht)
    cases event with
    | op op => exact ih (hu.alike (perform_samePlace h op).storage) hrest
    | exchanged storage => exact ih (h := { h with storage }) (he storage List.mem_cons_self) hrest

/-- A history that was opened has the room that was asked for, and is sound. -/
theorem init_sound {storage : Storage} {capacity : Int} {key : String} {opened : Step History Unit}
    (hopen : init storage capacity key = .ok opened) :
    1 ≤ capacity ∧ opened.state.capacity = capacity.toNat ∧ opened.state.Sound := by
  unfold init at hopen
  split at hopen
  · cases hopen
  · rename_i hroom
    cases hopen
    refine ⟨by omega, (perform_samePlace _ .restore).capacity, ?_⟩
    exact perform_sound (Sound.of_live (Tidy.nil _) rfl) .restore

/-- The position of a walk is that of an entry, and the live line is before the newest one. -/
theorem Sound.cursor_bounds {h : History} (hs : h.Sound) : -1 ≤ h.cursor ∧ h.cursor ≤ h.entries.length - 1 := by
  unfold cursor
  split
  · omega
  · rename_i w hw
    have hin := hs.inside w hw
    omega

/-- There is a draft only during a walk. -/
theorem pending_of_cursor {h : History} (hlive : h.cursor = -1) : h.pending = "" := by
  unfold cursor at hlive
  unfold pending
  split
  · rfl
  · rename_i w hw
    rw [hw] at hlive
    simp only at hlive
    omega

/-! ## Failures -/

/-- The reasons for which an operation may fail: a direction without a name, which changes nothing, and a text to read
back that nests too deep. -/
inductive Excused (h : History) : Op → Stop → Prop
  | direction {direction : Value} {current : String} {f : Fault} :
      Direction.parse direction = .error f → f.kind = .value → (h.perform (.navigate direction current)).state = h →
        Excused h (.navigate direction current) (.fault f)
  | nesting {innermost : Json.Container} :
      h.storage.NestsTooDeep h.key innermost → Excused h .restore (.fault (Json.tooDeepFault innermost))

theorem persist_result {h : History} (hu : h.storage.Uninterrupted) : h.persist.result = .ok () := by
  unfold persist
  split
  · rfl
  · rfl
  · rename_i why hne hset
    unfold Storage.set at hset
    split at hset
    · rename_i hfault
      obtain ⟨f, rfl⟩ := hu.writes _ _ hfault
      simp only [Prod.mk.injEq, Except.error.injEq] at hset
      exact absurd hset.2.symm (hne f)
    · cases hset

/-- A read fails with a fault, if it is not interrupted. -/
theorem get_error {s : Storage} (hu : s.Uninterrupted) {key : String} {why : Stop}
    (h : (s.get key).2 = .error why) : ∃ f, why = .fault f := by
  simp only [Storage.get] at h
  split at h
  · rename_i hfault
    cases h
    exact hu.reads _ _ hfault
  · cases h

/-- Reading back fails only where a text nests too deep. -/
theorem restore_error {h : History} (hu : h.storage.Uninterrupted) {why : Stop} (hf : h.restore.result = .error why) :
    Excused h .restore why := by
  unfold restore at hf
  cases hread : (h.storage.get h.key).2 with
  | error why' =>
    obtain ⟨f, rfl⟩ := get_error hu hread
    simp [hread] at hf
  | ok v =>
    cases hload : load h.capacity v with
    | ok loaded => simp [hread, hload] at hf
    | error f =>
      obtain ⟨text, innermost, htext, hparse, rfl⟩ := load_error hload
      simp only [hread, hload, Except.error.injEq] at hf
      rw [← hf]
      exact .nesting ⟨v, text, hread, htext, hparse⟩

/-- A word that is no direction is a value that does not fit. -/
theorem parse_error_kind {v : Value} {f : Fault} (h : Direction.parse v = .error f) : f.kind = .value := by
  unfold Direction.parse at h
  split at h
  · rename_i hwritten
    cases h
    rw [(Value.written_eq_error.mp hwritten).2]
    rfl
  · dsimp only at h
    split at h
    · cases h
    · cases h
      rfl

theorem perform_error {h : History} (hu : h.storage.Uninterrupted) {op : Op} {why : Stop}
    (hf : (h.perform op).result = .error why) : Excused h op why := by
  cases op with
  | record line =>
    exfalso
    simp only [perform, record] at hf
    split at hf
    · rw [persist_result (h := h.resetNavigation.push line) hu] at hf
      cases hf
    · cases hf
  | navigate direction current =>
    cases hparse : Direction.parse direction with
    | ok d => simp [perform, hparse] at hf
    | error f =>
      simp only [perform, hparse, Except.error.injEq] at hf
      rw [← hf]
      exact .direction hparse (parse_error_kind hparse) (by simp [perform, hparse])
  | clear =>
    rw [perform, clear, persist_result (h := { h.resetNavigation with entries := [] }) hu] at hf
    cases hf
  | persist =>
    rw [perform, persist_result hu] at hf
    cases hf
  | restore => exact restore_error hu hf
  | resetNavigation => cases hf

/-! ## Every state of every run -/

/-- What is seen of a sound history from outside. -/
structure Orderly (capacity : Int) (h : History) : Prop where
  apart : h.entries.IsChain (· ≠ ·)
  filled : ∀ e ∈ h.entries, e ≠ ""
  fits : h.entries.length ≤ capacity
  notBeforeLive : -1 ≤ h.cursor
  notBeyondOldest : h.cursor ≤ h.entries.length - 1
  draft : h.cursor = -1 → h.pending = ""

theorem Sound.orderly {h : History} (hs : h.Sound) {capacity : Int} (hc : h.capacity ≤ capacity) :
    h.Orderly capacity := by
  have hfits := hs.tidy.fits
  obtain ⟨hlow, hhigh⟩ := hs.cursor_bounds
  exact ⟨hs.tidy.apart, hs.tidy.filled, by omega, hlow, hhigh, pending_of_cursor⟩

/-- Whatever a store holds, however it fails and however often it is exchanged: a history of room for one entry or more
can be opened, unless what is stored nests too deep; each state it gets into is orderly, and in none of them an
operation fails without an excuse. -/
theorem history_stays_orderly (storage : Storage) (capacity : Int) (key : String) (hc : 1 ≤ capacity)
    (hs : storage.Uninterrupted) (events : List Event) (he : ∀ t, Event.exchanged t ∈ events → t.Uninterrupted) :
    ∃ opened, init storage capacity key = .ok opened ∧
      (∀ why, opened.result = .error why →
        ∃ innermost, storage.NestsTooDeep key innermost ∧ why = .fault (Json.tooDeepFault innermost)) ∧
      (opened.state.undergoAll events).Orderly capacity ∧
      ∀ op why, ((opened.state.undergoAll events).perform op).result = .error why →
        Excused (opened.state.undergoAll events) op why := by
  have hroom : ¬ capacity < 1 := by omega
  refine ⟨restore { storage, key, capacity := capacity.toNat }, by rw [init, if_neg hroom], ?_, ?_, ?_⟩
  · intro why hf
    cases restore_error hs hf with
    | nesting hdeep => exact ⟨_, hdeep, rfl⟩
  · have hsound := perform_sound (h := { storage, key, capacity := capacity.toNat })
      (Sound.of_live (Tidy.nil _) rfl) .restore
    apply (undergoAll_sound events hsound).orderly
    rw [undergoAll_capacity, (perform_samePlace _ .restore).capacity]
    exact Int.le_of_eq (Int.toNat_of_nonneg (Int.le_trans (by decide) hc))
  · intro op why hf
    have hstore := hs.alike (perform_samePlace { storage, key, capacity := capacity.toNat } .restore).storage
    exact perform_error (undergoAll_uninterrupted events hstore he) hf

namespace UnreliableStore

/-- A store that holds a list with repetitions and an empty text, and refuses each second write. -/
def store : Storage where
  table := [("lines", "[\"a\", \"a\", \"\", \"b\"]")]
  writeFault n := if n % 2 = 0 then some (.fault ⟨.os, "disk full"⟩) else none

/-- A store whose reads give a number. -/
def other : Storage where
  answer _ := some (.int 3)

/-- Two lines, a step back, and the exchange of the store before it is read again. -/
def events : List Event :=
  [.op (.record "c"), .op (.record "d"), .op (.navigate (.string " Up ") "draft"), .exchanged other, .op .restore]

theorem store_uninterrupted : store.Uninterrupted := by
  constructor
  · intro n why h
    cases h
  · intro n why h
    simp only [store] at h
    split at h
    · cases h
      exact ⟨_, rfl⟩
    · cases h

theorem events_uninterrupted : ∀ t, Event.exchanged t ∈ events → t.Uninterrupted := by
  intro t ht
  simp only [events, List.mem_cons, Event.exchanged.injEq, reduceCtorEq, List.not_mem_nil, or_false, false_or] at ht
  rw [ht]
  constructor <;> (intro n why h; cases h)

end UnreliableStore

open UnreliableStore in
/-- The run of two lines and a step back on an unreliable store, which is exchanged, is orderly. -/
theorem history_stays_orderly_unreliable :
    (1 : Int) ≤ 2 ∧ store.Uninterrupted ∧ (∀ t, Event.exchanged t ∈ events → t.Uninterrupted) ∧
      ∃ opened, init store 2 "lines" = .ok opened ∧
        (∀ why, opened.result = .error why →
          ∃ innermost, store.NestsTooDeep "lines" innermost ∧ why = .fault (Json.tooDeepFault innermost)) ∧
        (opened.state.undergoAll events).Orderly 2 ∧
        ∀ op why, ((opened.state.undergoAll events).perform op).result = .error why →
          Excused (opened.state.undergoAll events) op why :=
  ⟨by decide, store_uninterrupted, events_uninterrupted,
    history_stays_orderly store 2 "lines" (by decide) store_uninterrupted events events_uninterrupted⟩

end History

end CommandConsole
