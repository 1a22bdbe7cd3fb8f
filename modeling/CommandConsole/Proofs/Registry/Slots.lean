import Mathlib.Data.List.DropRight
import Mathlib.Data.List.Nodup
import CommandConsole.Command.Registry
import CommandConsole.Proofs.Text.LowerCase

/-!
# Slots of a registry

What happens to a registry is a list of events (`Registry.Event`). What it holds after them is read off the list itself:
`registrations` are the commands that were registered under a key since the key was removed last, of which the last one
counts, and `place` tells when the first of them was registered, which decides the order of the names. Each event keeps
the registry so (`Reached.step`), hence so it is after any of them (`slots_of_events`).
-/

namespace CommandConsole

/-! ## Commands that can be registered -/

namespace Draft

/-- A name that passes the check is one word. -/
theorem isWord_of_checkName {v : Value} {name : String} (h : checkName v = .ok name) : IsWord name := by
  unfold checkName at h
  split at h
  · split at h
    · cases h
    · rename_i hfilled
      split at h
      · cases h
      · rename_i hunbroken
        cases h
        refine ⟨fun hempty => hfilled (by rw [hempty]; rfl), fun c hc => ?_⟩
        rw [Bool.not_eq_true, List.any_eq_false] at hunbroken
        exact Bool.eq_false_iff.mpr (hunbroken c hc)
  · cases h

/-- The name of a command has passed the check. -/
theorem checkName_of_build {d : Draft} {c : Command} (h : d.build = .ok c) : checkName d.name = .ok c.name := by
  simp only [build, bind, Except.bind, pure, Except.pure] at h
  split at h
  · cases h
  · rename_i name hname
    split at h
    · cases h
    · split at h
      · cases h
      · split at h
        · cases h
        · cases h
          exact hname

/-- The name of a command is one word. -/
theorem isWord_of_build {d : Draft} {c : Command} (h : d.build = .ok c) : IsWord c.name :=
  isWord_of_checkName (checkName_of_build h)

end Draft

namespace Registry

/-! ## Events -/

/-- Something that happens to a registry. -/
inductive Event where
  /-- A command is built from a draft and registered, if there is one to build. -/
  | drafted (d : Draft)
  /-- A value is put forward that is no command. -/
  | offered (v : Value)
  /-- The command of a name is removed. -/
  | removed (name : String)
  /-- The completer of a command is asked. -/
  | asked (key : String)

/-- The registry after an event. -/
def undergo (r : Registry) : Event → Registry
  | .drafted d =>
    match d.build with
    | .ok c => (r.register (.command c)).state
    | .error _ => r
  | .offered v => (r.register (.value v)).state
  | .removed name => (r.unregister name).1
  | .asked key => r.noteAsked key

/-- The registry after events. -/
def undergoAll (r : Registry) (events : List Event) : Registry := events.foldl undergo r

/-- The command that an event registers under a key. -/
def Event.registers? (key : String) : Event → Option Command
  | .drafted d =>
    match d.build with
    | .ok c => if c.key = key then some c else none
    | .error _ => none
  | _ => none

/-- An event removes a key. -/
def Event.removes (key : String) : Event → Bool
  | .removed name => lowerCase name = key
  | _ => false

/-- The events up to the last removal of a key, or none if it was never removed. -/
def untilRemoval (key : String) (events : List Event) : List Event := events.rdropWhile (!·.removes key)

/-- The events since the last removal of a key, or all of them if it was never removed. -/
def sinceRemoval (key : String) (events : List Event) : List Event := events.rtakeWhile (!·.removes key)

/-- The commands that were registered under a key since it was removed last. -/
def registrations (key : String) (events : List Event) : List Command :=
  (sinceRemoval key events).filterMap (·.registers? key)

/-- How many events had happened when a key was first registered since its last removal. -/
def place (key : String) (events : List Event) : Nat :=
  (untilRemoval key events).length + (sinceRemoval key events).findIdx fun event => (event.registers? key).isSome

/-- The last removal of a key divides the events. -/
theorem length_untilRemoval_add (key : String) (events : List Event) :
    (untilRemoval key events).length + (sinceRemoval key events).length = events.length := by
  rw [← List.length_append, untilRemoval, sinceRemoval, List.rdropWhile_append_rtakeWhile]

/-- What does not remove a key is no part of the events up to its last removal. -/
theorem untilRemoval_concat {key : String} {event : Event} (hkept : event.removes key = false) (events : List Event) :
    untilRemoval key (events ++ [event]) = untilRemoval key events :=
  List.rdropWhile_concat_pos _ _ _ (by rw [hkept]; rfl)

theorem sinceRemoval_concat (key : String) (events : List Event) (event : Event) :
    sinceRemoval key (events ++ [event]) =
      if event.removes key then [] else sinceRemoval key events ++ [event] := by
  rw [sinceRemoval, List.rtakeWhile_concat]
  cases event.removes key <;> rfl

theorem registrations_concat (key : String) (events : List Event) (event : Event) :
    registrations key (events ++ [event]) =
      if event.removes key then [] else registrations key events ++ (event.registers? key).toList := by
  rw [registrations, sinceRemoval_concat]
  split
  · rfl
  · rw [List.filterMap_append, ← registrations]
    cases h : event.registers? key <;> simp [h]

/-- An event that removes a key registers nothing under it. -/
theorem Event.registers?_of_removes {key : String} {event : Event} (h : event.removes key = true) :
    event.registers? key = none := by
  cases event with
  | removed _ => rfl
  | drafted _ | offered _ | asked _ => cases h

/-- There are registrations of a key exactly if one is found. -/
theorem registrations_ne_nil {key : String} {events : List Event} :
    registrations key events ≠ [] ↔
      (sinceRemoval key events).findIdx (fun event => (event.registers? key).isSome) <
        (sinceRemoval key events).length := by
  rw [List.findIdx_lt_length, Ne, registrations, List.filterMap_eq_nil_iff]
  simp only [not_forall, exists_prop, Option.isSome_iff_ne_none, Ne]

/-- A place is that of an event. -/
theorem place_lt {key : String} {events : List Event} (hheld : registrations key events ≠ []) :
    place key events < events.length := by
  rw [place, ← length_untilRemoval_add key events]
  exact Nat.add_lt_add_left (registrations_ne_nil.mp hheld) _

/-- The place of a key is kept by all that does not remove it. -/
theorem place_concat {key : String} {events : List Event} (hheld : registrations key events ≠ []) {event : Event}
    (hkept : event.removes key = false) : place key (events ++ [event]) = place key events := by
  rw [place, place, untilRemoval_concat hkept, sinceRemoval_concat, hkept, if_neg Bool.false_ne_true, List.findIdx_append,
    if_pos (registrations_ne_nil.mp hheld)]

/-- A key that is registered afresh has its place behind all that has happened. -/
theorem place_afresh {key : String} {events : List Event} (hfree : registrations key events = []) {event : Event}
    {c : Command} (hc : event.registers? key = some c) : place key (events ++ [event]) = events.length := by
  have hkept : event.removes key = false := by
    by_contra hremoves
    rw [Bool.not_eq_false] at hremoves
    rw [Event.registers?_of_removes hremoves] at hc
    cases hc
  rw [place, untilRemoval_concat hkept, sinceRemoval_concat, hkept, if_neg Bool.false_ne_true, List.findIdx_append,
    if_neg (mt registrations_ne_nil.mpr (not_not.mpr hfree)), List.findIdx_singleton, hc]
  simp only [Option.isSome_some, if_true, Nat.zero_add]
  exact length_untilRemoval_add key events

/-! ## What the operations do -/

/-- The command under a lower-case name. -/
def command? (r : Registry) (key : String) : Option Command := (r.entry? key).map (·.command)

/-- Putting an entry adds its key at the end, unless it is there. -/
theorem keys_put (e : Entry) (entries : List Entry) :
    (put e entries).map (·.key) =
      if e.key ∈ entries.map (·.key) then entries.map (·.key) else entries.map (·.key) ++ [e.key] := by
  induction entries with
  | nil => rfl
  | cons x rest ih =>
    rw [put]
    by_cases hkey : x.key = e.key
    · simp [hkey]
    · rw [if_neg hkey, List.map_cons, ih]
      simp only [List.map_cons, List.mem_cons, Ne.symm hkey, false_or]
      split <;> rfl

/-- The entry that was put is found under its key, and what was there under all other keys. -/
theorem find?_put (e : Entry) (entries : List Entry) (key : String) :
    (put e entries).find? (·.key == key) = if e.key = key then some e else entries.find? (·.key == key) := by
  induction entries with
  | nil => by_cases hfound : e.key = key <;> simp [put, hfound]
  | cons x rest ih =>
    rw [put]
    by_cases hkey : x.key = e.key
    · by_cases hfound : e.key = key <;> simp [hkey, hfound]
    · rw [if_neg hkey]
      by_cases hx : x.key = key
      · simp [hx, show e.key ≠ key from fun hfound => hkey (hx.trans hfound.symm)]
      · simp [hx, ih]

/-- An entry is the one that was put, or was there before. -/
theorem mem_put {e x : Entry} {entries : List Entry} (h : x ∈ put e entries) : x = e ∨ x ∈ entries := by
  induction entries with
  | nil => exact Or.inl (List.mem_singleton.mp h)
  | cons y rest ih =>
    rw [put] at h
    split at h
    · rcases List.mem_cons.mp h with rfl | h
      · exact Or.inl rfl
      · exact Or.inr (List.mem_cons_of_mem _ h)
    · rcases List.mem_cons.mp h with rfl | h
      · exact Or.inr List.mem_cons_self
      · exact (ih h).imp_right (List.mem_cons_of_mem _)

/-- Registering adds a name at the end, unless it is there. -/
theorem names_insert (r : Registry) (c : Command) :
    (r.insert c).names = if c.key ∈ r.names then r.names else r.names ++ [c.key] :=
  keys_put ⟨c.key, c, 0⟩ r.entries

/-- Registering puts the command under its key and leaves all other keys alone. -/
theorem command?_insert (r : Registry) (c : Command) (key : String) :
    (r.insert c).command? key = if c.key = key then some c else r.command? key := by
  rw [command?, entry?, insert, find?_put]
  split <;> rfl

/-- Removing a name leaves the other names, in their order. -/
theorem names_unregister (r : Registry) (name : String) :
    (r.unregister name).1.names = r.names.filter (· ≠ lowerCase name) := by
  simp only [unregister, names, List.filter_map]
  rfl

/-- Removing a name leaves what is under the other ones. -/
theorem command?_unregister (r : Registry) (name key : String) :
    (r.unregister name).1.command? key = if lowerCase name = key then none else r.command? key := by
  simp only [command?, unregister, entry?, List.find?_filter]
  split
  · rename_i hkey
    rw [Option.map_eq_none_iff, List.find?_eq_none]
    simp [hkey]
  · rename_i hkey
    congr 2
    funext e
    by_cases he : e.key = key <;> simp [he, Ne.symm hkey]

/-- Counting questions leaves the names. -/
theorem names_noteAsked (r : Registry) (key : String) : (r.noteAsked key).names = r.names := by
  rw [names, noteAsked, List.map_map, names]
  refine List.map_congr_left fun e _ => ?_
  simp only [Function.comp_apply]
  split <;> rfl

/-- Counting questions leaves the command of every name. -/
theorem command?_noteAsked (r : Registry) (key name : String) : (r.noteAsked key).command? name = r.command? name := by
  have hkey : ((fun e : Entry => e.key == name) ∘ fun e => if e.key = key then { e with asked := e.asked + 1 } else e) =
      fun e => e.key == name := by
    funext e
    simp only [Function.comp_apply]
    split <;> rfl
  rw [command?, noteAsked, entry?, List.find?_map, hkey, Option.map_map, command?, entry?]
  congr 1
  funext e
  simp only [Function.comp_apply]
  split <;> rfl

/-- A name is there exactly if there is a command under it. -/
theorem mem_names {r : Registry} {key : String} : key ∈ r.names ↔ (r.command? key).isSome := by
  rw [names, List.mem_map, command?, Option.isSome_map, entry?, List.find?_isSome]
  simp only [beq_iff_eq]

/-- Where no name is there twice, the command of an entry is found under its key. -/
theorem command?_of_mem {r : Registry} (hnodup : r.names.Nodup) {e : Entry} (he : e ∈ r.entries) :
    r.command? e.key = some e.command := by
  have hsome : (r.entry? e.key).isSome := by
    rw [← Option.isSome_map (f := (·.command)), ← command?, ← mem_names]
    exact List.mem_map_of_mem he
  obtain ⟨found, hfound⟩ := Option.isSome_iff_exists.mp hsome
  have hkey : found.key = e.key := by simpa using List.find?_some hfound
  rw [command?, hfound, List.inj_on_of_nodup_map hnodup (List.mem_of_find?_eq_some hfound) he hkey]
  rfl

/-- Removing a name that is not there changes nothing. -/
theorem unregister_absent {r : Registry} {name : String} (h : r.contains name = false) :
    r.unregister name = (r, none) := by
  have hnot : lowerCase name ∉ r.names := by simpa [contains] using h
  have hnone : r.command? (lowerCase name) = none := by
    rw [← Option.not_isSome_iff_eq_none, ← mem_names]
    exact hnot
  have hall : r.entries.filter (·.key ≠ lowerCase name) = r.entries := by
    rw [List.filter_eq_self]
    intro e he
    exact decide_eq_true fun hkey => hnot (hkey ▸ List.mem_map_of_mem he)
  rw [unregister, hall, lookup, ← command?, hnone]

/-! ## What events keep -/

/-- A registry that is as its events say. -/
structure Reached (events : List Event) (r : Registry) : Prop where
  keyed : ∀ e ∈ r.entries, e.key = e.command.key
  word : ∀ e ∈ r.entries, IsWord e.command.name
  found : ∀ key, r.command? key = (registrations key events).getLast?
  ordered : r.names.Pairwise fun key later => place key events < place later events

namespace Reached

variable {events : List Event} {r : Registry}

/-- The names are those that were registered and not removed since. -/
theorem mem_names_iff (h : Reached events r) (key : String) : key ∈ r.names ↔ registrations key events ≠ [] := by
  rw [mem_names, h.found, List.getLast?_isSome]

/-- The place of a name is kept by all that does not remove it. -/
theorem place_kept (h : Reached events r) {event : Event} {key : String} (hkey : key ∈ r.names)
    (hkept : event.removes key = false) : place key (events ++ [event]) = place key events :=
  place_concat ((h.mem_names_iff key).mp hkey) hkept

/-- Names that are not removed stay in their order. -/
theorem ordered_concat (h : Reached events r) {event : Event} {keys : List String} (hsub : keys.Sublist r.names)
    (hkept : ∀ key ∈ keys, event.removes key = false) :
    keys.Pairwise fun key later => place key (events ++ [event]) < place later (events ++ [event]) := by
  refine (h.ordered.sublist hsub).imp_of_mem fun {key later} hkey hlater hlt => ?_
  rw [h.place_kept (hsub.subset hkey) (hkept key hkey), h.place_kept (hsub.subset hlater) (hkept later hlater)]
  exact hlt

/-- What neither removes nor registers anything leaves a registry as it is. -/
theorem idle (h : Reached events r) {event : Event} (hremoves : ∀ key, event.removes key = false)
    (hregisters : ∀ key, event.registers? key = none) : Reached (events ++ [event]) r where
  keyed := h.keyed
  word := h.word
  found key := by
    rw [h.found, registrations_concat, hremoves, hregisters]
    simp
  ordered := h.ordered_concat (List.Sublist.refl _) fun key _ => hremoves key

/-- Counting the questions to a completer leaves a registry as it is otherwise. -/
theorem recounted (h : Reached events r) (key : String) : Reached events (r.noteAsked key) := by
  have hentry : ∀ e ∈ (r.noteAsked key).entries, ∃ e' ∈ r.entries, e.key = e'.key ∧ e.command = e'.command := by
    intro e he
    obtain ⟨e', he', rfl⟩ := List.mem_map.mp he
    exact ⟨e', he', by split <;> exact ⟨rfl, rfl⟩⟩
  constructor
  · intro e he
    obtain ⟨e', he', hkey, hcommand⟩ := hentry e he
    rw [hkey, hcommand]
    exact h.keyed e' he'
  · intro e he
    obtain ⟨e', he', -, hcommand⟩ := hentry e he
    rw [hcommand]
    exact h.word e' he'
  · intro name
    rw [← h.found, command?_noteAsked]
  · rw [names_noteAsked]
    exact h.ordered

/-- A command is registered. -/
theorem drafted (h : Reached events r) {d : Draft} {c : Command} (hc : d.build = .ok c) :
    Reached (events ++ [.drafted d]) (r.insert c) := by
  have hregisters : ∀ key, Event.registers? key (.drafted d) = if c.key = key then some c else none := by
    intro key
    rw [Event.registers?, hc]
  have hordered : r.names.Pairwise fun key later =>
      place key (events ++ [.drafted d]) < place later (events ++ [.drafted d]) :=
    h.ordered_concat (List.Sublist.refl _) fun _ _ => rfl
  constructor
  · intro e he
    rcases mem_put he with rfl | he
    · rfl
    · exact h.keyed e he
  · intro e he
    rcases mem_put he with rfl | he
    · exact Draft.isWord_of_build hc
    · exact h.word e he
  · intro key
    rw [command?_insert, registrations_concat, hregisters]
    split
    · simp [Event.removes]
    · simp [Event.removes, h.found]
  · rw [names_insert]
    split
    · exact hordered
    · rename_i hfree
      -- the key that is new has the last place, and all other places are those of earlier events
      rw [List.pairwise_append]
      refine ⟨hordered, List.pairwise_singleton _ _, fun key hkey later hlater => ?_⟩
      have hnone : registrations c.key events = [] := by
        by_contra hheld
        exact hfree ((h.mem_names_iff _).mpr hheld)
      rw [List.mem_singleton.mp hlater, place_afresh hnone ((hregisters _).trans (if_pos rfl)),
        h.place_kept hkey rfl]
      exact place_lt ((h.mem_names_iff key).mp hkey)

/-- A name is removed. -/
theorem removed (h : Reached events r) (name : String) :
    Reached (events ++ [.removed name]) (r.unregister name).1 := by
  constructor
  · intro e he
    exact h.keyed e (List.mem_of_mem_filter he)
  · intro e he
    exact h.word e (List.mem_of_mem_filter he)
  · intro key
    rw [command?_unregister, registrations_concat, Event.removes]
    split
    · rename_i hkey
      simp [hkey]
    · rename_i hkey
      simp [hkey, Event.registers?, h.found]
  · rw [names_unregister]
    refine h.ordered_concat List.filter_sublist fun key hkey => ?_
    have hne := of_decide_eq_true (List.mem_filter.mp hkey).2
    exact decide_eq_false (Ne.symm hne)

/-- Every event keeps a registry as its events say. -/
theorem step (h : Reached events r) (event : Event) : Reached (events ++ [event]) (r.undergo event) := by
  cases event with
  | drafted d =>
    cases hbuild : d.build with
    | error e =>
      rw [undergo, hbuild]
      exact h.idle (fun _ => rfl) fun key => by rw [Event.registers?, hbuild]
    | ok c =>
      rw [undergo, hbuild]
      exact h.drafted hbuild
  | offered v => exact h.idle (fun _ => rfl) fun _ => rfl
  | removed name => exact h.removed name
  | asked key => exact (h.idle (fun _ => rfl) fun _ => rfl).recounted key

end Reached

/-- So do many events, from an empty registry on. -/
theorem reached_undergoAll (events : List Event) : Reached events (({} : Registry).undergoAll events) := by
  -- from the last event on, since the registrations of a key and its place are read off from there
  induction events using List.reverseRecOn with
  | nil => exact ⟨nofun, nofun, fun _ => rfl, List.Pairwise.nil⟩
  | append_singleton events event ih =>
    rw [undergoAll, List.foldl_append]
    exact ih.step event

/-! ## From outside -/

/-- What a registry shows after events. -/
structure Slots (events : List Event) (r : Registry) : Prop where
  /-- The names are those that were registered and not removed since, and none is there twice. -/
  listed : ∀ key, key ∈ r.names ↔ registrations key events ≠ []
  nodup : r.names.Nodup
  /-- A name is one word, the name of its command in lower case. -/
  word : ∀ key ∈ r.names, IsWord key
  keyed : ∀ e ∈ r.entries, e.key = lowerCase e.command.name
  /-- A name, in any case, finds what was registered under it last. -/
  lookup : ∀ name, r.lookup name = (registrations (lowerCase name) events).getLast?
  /-- The names come in the order of their first registrations, the commands and the names that match in the order of
  the names. -/
  ordered : r.names.Pairwise fun key later => place key events < place later events
  commands : r.commands.map some = r.names.map r.lookup
  matched : ∀ typed, (r.matchPrefix typed).Sublist r.names
  mem_matched : ∀ typed key, key ∈ r.matchPrefix typed ↔ key ∈ r.names ∧ (lowerCase typed).toList <+: key.toList

/-- No name is there twice. -/
theorem Reached.nodup {events : List Event} {r : Registry} (h : Reached events r) : r.names.Nodup := by
  refine h.ordered.imp fun hlt heq => ?_
  rw [heq] at hlt
  exact Nat.lt_irrefl _ hlt

/-- A registered command is found under each spelling of its name. -/
theorem Reached.lookup_of_mem {events : List Event} {r : Registry} (h : Reached events r) {c : Command}
    (hc : c ∈ r.commands) {name : String} (hname : lowerCase name = c.key) : r.lookup name = some c := by
  obtain ⟨e, he, rfl⟩ := List.mem_map.mp hc
  rw [Registry.lookup, hname, ← h.keyed e he, ← command?, command?_of_mem h.nodup he]

/-- A registry that is as its events say shows so. -/
theorem Reached.slots {events : List Event} {r : Registry} (h : Reached events r) : Slots events r where
  listed := h.mem_names_iff
  nodup := h.nodup
  word key hkey := by
    obtain ⟨e, he, rfl⟩ := List.mem_map.mp hkey
    rw [h.keyed e he]
    exact isWord_lowerCase.mpr (h.word e he)
  keyed := h.keyed
  lookup name := h.found (lowerCase name)
  ordered := h.ordered
  commands := by
    rw [Registry.commands, names, List.map_map, List.map_map]
    refine List.map_congr_left fun e he => (h.lookup_of_mem (List.mem_map_of_mem he) ?_).symm
    dsimp only
    rw [h.keyed e he, Definition.key, lowerCase_lowerCase]
  matched typed := List.filter_sublist
  mem_matched typed key := by
    rw [matchPrefix, matching, List.mem_filter, List.isPrefixOf_iff_prefix]

/-- **Slots.** After any events, each name leads to the command that was registered under it last, and the names come in
the order in which they were first registered since their last removal. So a command that is replaced keeps its place,
and one that is removed and registered again is last. What is no command is refused, and a name that is not there is not
removed; both leave the registry as it is. -/
theorem slots_of_events (events : List Event) :
    let r := ({} : Registry).undergoAll events
    Slots events r ∧
      (∀ d c, d.build = .ok c →
        (c.key ∈ r.names → (r.undergo (.drafted d)).names = r.names) ∧
        ∀ name, lowerCase name = c.key →
          (r.undergoAll [.removed name, .drafted d]).names = r.names.filter (· ≠ c.key) ++ [c.key]) ∧
      (∀ v, (r.register (.value v)).state = r ∧ ∃ f, (r.register (.value v)).result = .error (.fault f)) ∧
      ∀ name, r.contains name = false → r.unregister name = (r, none) := by
  intro r
  have hslots : Slots events r := (reached_undergoAll events).slots
  refine ⟨hslots, fun d c hc => ⟨fun hkey => ?_, fun name hname => ?_⟩, fun v => ⟨rfl, _, rfl⟩, fun name habsent => ?_⟩
  · rw [undergo, hc]
    exact (names_insert r c).trans (if_pos hkey)
  · have hremoved := names_unregister r name
    rw [hname] at hremoved
    simp only [undergoAll, List.foldl_cons, List.foldl_nil, undergo, hc]
    show ((r.unregister name).1.insert c).names = _
    rw [names_insert, hremoved, if_neg (by simp)]
  · exact unregister_absent habsent

namespace TwoSlots

/-- A draft of a command that does nothing. -/
def draft (name : String) : Draft := { name := .string name }

/-- The command of such a draft. -/
def command (name : String) : Command := { name, action := fun _ => .done, usage := .string name }

/-- Two commands are registered, and the first one is replaced. -/
def events : List Event := [.drafted (draft "Look"), .drafted (draft "load"), .offered .null, .drafted (draft "LOOK")]

end TwoSlots

open TwoSlots in
/-- The command that is replaced stays the first; removed and registered again, it is the last. -/
theorem slots_of_events_replaced :
    let r := ({} : Registry).undergoAll events
    (draft "looK").build = .ok (command "looK") ∧ r.names = ["look", "load"] ∧
      r.lookup "lOOk" = some (command "LOOK") ∧ (r.undergo (.drafted (draft "looK"))).names = ["look", "load"] ∧
      (r.undergoAll [.removed "loOk", .drafted (draft "looK")]).names = ["load", "look"] := by
  intro r
  have hbuild : (draft "looK").build = .ok (command "looK") := by rfl
  have hnames : r.names = ["look", "load"] := by decide +kernel
  obtain ⟨hslots, hdrafted, -⟩ := slots_of_events events
  obtain ⟨hkept, hmoved⟩ := hdrafted _ _ hbuild
  refine ⟨hbuild, hnames, (hslots.lookup "lOOk").trans (by rfl), ?_, ?_⟩
  · rw [← hnames]
    exact hkept (by decide +kernel)
  · exact (hmoved "loOk" (by decide +kernel)).trans (by decide +kernel)

end Registry

end CommandConsole
