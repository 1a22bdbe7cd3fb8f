import CommandConsole.Proofs.History.Replay

/-!
# Histories that are loaded

A history is loaded with the texts of a stored list (`Storage.storedTexts`), when it is opened and when it is read back.
Loading comes to the same as recording the texts, one after the other, in an empty history (`loaded_eq_recorded`), if
none of them is blank without being empty: recording refuses all blank lines, loading the empty one only. So every blank
entry was loaded (`blank_entries_loaded`), and there can be one (`blank_line_loaded`). It is not so for texts with
surrogates, since a list of them does not tell them apart from characters (`split_pair_loaded_once`).
-/

namespace CommandConsole

/-! ## Stored texts -/

/-- The text is a JSON list of some texts, in any of its spellings. -/
def Json.Lists (text : String) (items : List String) : Prop :=
  ∃ loaded, Json.parse text = .ok loaded ∧ loaded.strings? = some items

/-- A written list of texts is a list of these texts. -/
theorem Json.lists_encodeStrings (items : List String) : Json.Lists (Json.encodeStrings items) items :=
  ⟨_, Json.parse_encodeStrings items, History.strings?_list_string items⟩

/-- The texts of the list that a value stands for; a value that is no list of texts in JSON has none. -/
def Value.storedTexts (v : Value) : List String :=
  match v.text? with
  | some text =>
    match Json.parse text with
    | .ok loaded => loaded.strings?.getD []
    | .error _ => []
  | none => []

/-- The texts of the list that the next read of a key gives. -/
def Storage.storedTexts (s : Storage) (key : String) : List String :=
  match (s.get key).2 with
  | .ok v => v.storedTexts
  | .error _ => []

/-- A value that counts as false has no stored texts. -/
theorem storedTexts_of_falsy {v : Value} (h : v.truthy = false) : v.storedTexts = [] := by
  cases v with
  | string text =>
    obtain rfl : text = "" := by simpa [Value.truthy] using h
    rfl
  | ragged t => cases h
  | _ => rfl

namespace History

/-- A list of texts is loaded as what is admitted of it. -/
theorem load_of_lists {text : String} {items : List String} (h : Json.Lists text items) (capacity : Nat) :
    load capacity (.string text) = .ok (admitted capacity items, []) := by
  obtain ⟨loaded, hparse, hitems⟩ := h
  have htrue : (Value.string text).truthy = true := by
    by_contra hfalse
    obtain rfl : text = "" := by simpa [Value.truthy] using hfalse
    cases hparse
  simp [load, htrue, Value.text?, hparse, hitems]

theorem admitted_nil (capacity : Nat) : admitted capacity [] = [] := List.drop_nil

/-- What is read back is what is admitted of the stored texts. -/
theorem found_eq (h : History) : h.found = admitted h.capacity (h.storage.storedTexts h.key) := by
  unfold found Storage.storedTexts
  cases (h.storage.get h.key).2 with
  | error why => exact (admitted_nil _).symm
  | ok v =>
    cases htrue : v.truthy with
    | false => simp [load, htrue, storedTexts_of_falsy htrue, admitted_nil]
    | true =>
      cases htext : v.text? with
      | some text =>
        cases hparse : Json.parse text with
        | error e => cases e <;> simp [load, htrue, htext, hparse, Value.storedTexts, admitted_nil]
        | ok loaded =>
          cases hitems : loaded.strings? <;> simp [load, htrue, htext, hparse, hitems, Value.storedTexts, admitted_nil]
      | none => simp [load, htrue, htext, Value.storedTexts, admitted_nil]

/-! ## Loading and recording -/

/-- Texts that are recorded one after the other are added to the entries, but for the empty ones, if no other one is
blank. -/
theorem recordAll_entries (items : List String) (hblank : ∀ item ∈ items, allBlank item = true → item = "") :
    ∀ h : History, (h.performAll (items.map .record)).entries =
      addLines h.capacity h.entries (items.filter (· ≠ "")) := by
  induction items with
  | nil => exact fun _ => rfl
  | cons item items ih =>
    intro h
    have hrest := ih (fun other hother => hblank other (List.mem_cons_of_mem _ hother)) (h.record item).state
    rw [record_capacity] at hrest
    show ((h.record item).state.performAll (items.map .record)).entries = _
    rw [hrest]
    cases hitem : allBlank item with
    | true =>
      have hempty := hblank item List.mem_cons_self hitem
      have hrefused : h.admits item = false := by rw [admits, hitem]; rfl
      rw [record_state, hrefused]
      simp [hempty, resetNavigation]
    | false =>
      have hfilled : item ≠ "" := ne_empty_of_not_allBlank hitem
      rw [record_entries h hitem, List.filter_cons_of_pos (by simpa using hfilled)]
      rfl

/-- **Loading is recording.** A history is opened on a store that holds a list of texts, of which none but the empty one
is blank, in any spelling. Then it has the entries of an empty history of the same capacity in which these texts have
been recorded, one after the other. -/
theorem loaded_eq_recorded (capacity : Int) (hc : 1 ≤ capacity) (items : List String)
    (hblank : ∀ item ∈ items, allBlank item = true → item = "") :
    Json.Lists (Json.encodeStrings items) items ∧
      ∀ (storage : Storage) (key text : String), (storage.get key).2 = .ok (.string text) → Json.Lists text items →
        ∃ opened, init storage capacity key = .ok opened ∧ opened.result = .ok () ∧
          ∀ empty : History, empty.entries = [] → empty.capacity = capacity.toNat →
            opened.state.entries = (empty.performAll (items.map .record)).entries := by
  refine ⟨Json.lists_encodeStrings items, fun storage key text hread hlists => ?_⟩
  have hroom : ¬ capacity < 1 := by omega
  have hopened : restore { storage, key, capacity := capacity.toNat } =
      ⟨{ storage := (storage.get key).1, key, capacity := capacity.toNat, entries := admitted capacity.toNat items }, [],
        .ok ()⟩ := by
    simp only [restore, hread, load_of_lists hlists]
  refine ⟨_, by rw [init, if_neg hroom, hopened], rfl, fun empty hempty hcapacity => ?_⟩
  rw [recordAll_entries items hblank, hempty, hcapacity, addLines_eq (by omega) (Tidy.nil _), List.nil_append]
  rfl

namespace OneLine

/-- Three different texts, an empty one, and one that is repeated behind it. -/
def items : List String := ["a", "b", "", "b", "é"]

/-- The list of these texts in another spelling than the written one. -/
def text : String := "[\"\\u0061\",\"b\",\n\"\",\"b\",\"é\"]"

/-- A store with this list. -/
def store : Storage where
  table := [("lines", text)]

/-- An empty history with room for one line, on a store that refuses all writes. -/
def empty : History where
  storage := { writeFault := fun _ => some (.fault ⟨.os, "disk full"⟩) }
  key := "other"
  capacity := 1

end OneLine

open OneLine in
/-- A history of one line is loaded with the last text, the only one that is left after all are recorded. -/
theorem loaded_eq_recorded_oneLine :
    (1 : Int) ≤ 1 ∧ (∀ item ∈ items, allBlank item = true → item = "") ∧ (store.get "lines").2 = .ok (.string text) ∧
      Json.Lists text items ∧ text ≠ Json.encodeStrings items ∧ empty.entries = [] ∧
      ∃ opened, init store 1 "lines" = .ok opened ∧
        opened.state.entries = (empty.performAll (items.map .record)).entries ∧ opened.state.entries = ["é"] := by
  have hblank : ∀ item ∈ items, allBlank item = true → item = "" := by decide +kernel
  have hlists : Json.Lists text items := ⟨.list (items.map .string), by rfl, strings?_list_string items⟩
  obtain ⟨opened, hopen, -, hentries⟩ :=
    (loaded_eq_recorded 1 (by decide) items hblank).2 store "lines" text rfl hlists
  have hsame := hentries empty rfl rfl
  have hlast : (empty.performAll (items.map .record)).entries = ["é"] := by decide +kernel
  exact ⟨by decide, hblank, rfl, hlists, by decide +kernel, rfl, opened, hopen, hsame, hsame.trans hlast⟩

namespace SplitPair

/-- A text of the two surrogates that a character is written with, and a text of that character. -/
def items : List (List Point) := [[.ofNat 0xD83D, .ofNat 0xDE00], pointsOf "😀"]

/-- A store with the list of these texts. -/
def store : Storage where
  table := [("lines", Json.encodeTexts items)]

end SplitPair

open SplitPair in
/-- Texts with surrogates can differ and yet be written alike. So two of them that are recorded one after the other are two
entries, but only one is loaded. -/
theorem split_pair_loaded_once :
    (∀ item ∈ items, ∃ p ∈ item, isBlank p.shown = false) ∧ addLines 5 [] items = items ∧
      (store.get "lines").2 = .ok (.string "[\"\\ud83d\\ude00\", \"\\ud83d\\ude00\"]") ∧
      ∃ opened, init store 5 "lines" = .ok opened ∧ opened.state.entries = ["😀"] :=
  ⟨by decide, by decide, by rfl, _, rfl, by decide +kernel⟩

/-! ## Blank entries -/

/-- The texts that a history was loaded with at last, after an event; it was loaded with `texts` before. Emptying it
takes them away. -/
def loadedAfter (h : History) (texts : List String) : Event → List String
  | .op .restore => h.storage.storedTexts h.key
  | .op .clear => []
  | _ => texts

/-- The texts that a history was loaded with at last, after events. -/
def lastLoaded : History → List String → List Event → List String
  | _, texts, [] => texts
  | h, texts, event :: events => lastLoaded (h.undergo event) (h.loadedAfter texts event) events

/-- What is admitted was stored. -/
theorem mem_of_mem_admitted {capacity : Nat} {items : List String} {e : String} (h : e ∈ admitted capacity items) :
    e ∈ items :=
  (List.mem_filter.mp ((collapseRepeats_sublist _).subset ((takeLast_suffix _ _).subset h))).1

/-- Recording adds no blank entry. -/
theorem blank_of_record {h : History} {line e : String} (he : e ∈ (h.record line).state.entries)
    (hblank : allBlank e = true) : e ∈ h.entries := by
  cases hline : allBlank line with
  | true =>
    have hrefused : h.admits line = false := by rw [admits, hline]; rfl
    rw [record_state, hrefused] at he
    exact he
  | false =>
    rcases mem_record_entries he with he | rfl
    · exact he
    · rw [hline] at hblank
      cases hblank

/-- If the blank entries are among the texts that a history was loaded with at last, they are after an event. -/
theorem blank_of_undergo {h : History} {texts : List String} (hbefore : ∀ e ∈ h.entries, allBlank e = true → e ∈ texts)
    (event : Event) : ∀ e ∈ (h.undergo event).entries, allBlank e = true → e ∈ h.loadedAfter texts event := by
  intro e he hblank
  cases event with
  | exchanged storage => exact hbefore e he hblank
  | op op =>
    rw [undergo] at he
    cases op with
    | record line => exact hbefore e (blank_of_record he hblank) hblank
    | navigate direction current =>
      simp only [perform] at he
      split at he
      · exact hbefore e he hblank
      · rw [(navigate_edited h _ current).2] at he
        exact hbefore e he hblank
    | clear =>
      rw [perform, clear, persist_state] at he
      cases he
    | persist =>
      rw [perform, persist_state] at he
      exact hbefore e he hblank
    | restore =>
      rw [perform, restore_state, found_eq] at he
      exact mem_of_mem_admitted he
    | resetNavigation => exact hbefore e he hblank

/-- So they are after many events. -/
theorem blank_of_undergoAll (events : List Event) :
    ∀ {h : History} {texts : List String}, (∀ e ∈ h.entries, allBlank e = true → e ∈ texts) →
      ∀ e ∈ (h.undergoAll events).entries, allBlank e = true → e ∈ h.lastLoaded texts events := by
  induction events with
  | nil => exact fun h => h
  | cons event events ih => exact fun hbefore => ih (blank_of_undergo hbefore event)

/-- **Blank entries were loaded.** A history that is opened has what is admitted of the stored texts: all but the empty
ones, without repetitions, as many as fit. Whatever happens to it then, each of its blank entries is one of the texts
that it was loaded with at last, and not empty. -/
theorem blank_entries_loaded {storage : Storage} {capacity : Int} {key : String} {opened : Step History Unit}
    (hopen : init storage capacity key = .ok opened) (events : List Event) :
    opened.state.entries = takeLast capacity.toNat (collapseRepeats ((storage.storedTexts key).filter (· ≠ ""))) ∧
      ∀ e ∈ (opened.state.undergoAll events).entries, allBlank e = true →
        e ≠ "" ∧ e ∈ opened.state.lastLoaded (storage.storedTexts key) events := by
  have hsound := (init_sound hopen).2.2
  have hopened : opened.state.entries = admitted capacity.toNat (storage.storedTexts key) := by
    unfold init at hopen
    split at hopen
    · cases hopen
    · cases hopen
      rw [restore_state, found_eq]
  refine ⟨hopened, fun e he hblank => ⟨(undergoAll_sound events hsound).tidy.filled e he, ?_⟩⟩
  refine blank_of_undergoAll events (fun entry hentry _ => ?_) e he hblank
  rw [hopened] at hentry
  exact mem_of_mem_admitted hentry

namespace BlankLine

/-- A store with a blank line, an empty one and one that is neither. -/
def store : Storage where
  table := [("lines", "[\" \\u3000\", \"\", \"help\"]")]

/-- A blank line is refused, and the history is emptied and read back. -/
def events : List Event := [.op (.record "\t"), .op .clear, .exchanged store, .op .restore, .op (.record "exit")]

end BlankLine

open BlankLine in
/-- The blank line is an entry from the start, and again after it was read back. -/
theorem blank_entries_loaded_again :
    ∃ opened, init store 3 "lines" = .ok opened ∧ opened.state.entries = [" \u3000", "help"] ∧
      (opened.state.undergoAll events).entries = [" \u3000", "help", "exit"] ∧
      ∀ e ∈ (opened.state.undergoAll events).entries, allBlank e = true →
        e ≠ "" ∧ e ∈ opened.state.lastLoaded (store.storedTexts "lines") events := by
  obtain ⟨-, hblank⟩ := @blank_entries_loaded store 3 "lines" _ rfl events
  exact ⟨_, rfl, by decide +kernel, by decide +kernel, hblank⟩

open BlankLine in
/-- The same line is refused where it is to be recorded. -/
theorem blank_line_loaded :
    ∃ opened, init store 3 "lines" = .ok opened ∧ " \u3000" ∈ opened.state.entries ∧ allBlank " \u3000" = true ∧
      (opened.state.record " \u3000").result = .ok false :=
  ⟨_, rfl, by decide +kernel, by decide +kernel, by rfl⟩

end History

end CommandConsole
