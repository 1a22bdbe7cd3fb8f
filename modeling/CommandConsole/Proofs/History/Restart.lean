import CommandConsole.Proofs.History.Run

/-!
# Opening a history again

`reopened_entries`: after any operations of which the last write did not fail, a second history on the same store has
the last entries of the first one, as many as fit into it. What makes this hold through a whole run is `Kept`: as long
as no later write has failed, the stored value stands for exactly the entries.
-/

namespace CommandConsole

namespace Storage

/-- Reads do not fail, and give what is stored. -/
structure ReadsBack (s : Storage) : Prop where
  readFault : ∀ n, s.readFault n = none
  answer : ∀ n, s.answer n = none

theorem ReadsBack.alike {s t : Storage} (h : s.ReadsBack) (ha : s.Alike t) : t.ReadsBack :=
  ⟨ha.readFault ▸ h.readFault, ha.answer ▸ h.answer⟩

/-- The stored text of a key as a value; a key without one has no value. -/
def value (s : Storage) (key : String) : Value := ((s.raw? key).map Value.string).getD .null

theorem get_of_readsBack {s : Storage} (h : s.ReadsBack) (key : String) : (s.get key).2 = .ok (s.value key) := by
  rw [get, h.readFault, h.answer]
  rfl

/-- Of the writes since write number `start`, the last one did not fail, if there was any. -/
def Saved (start : Nat) (s : Storage) : Prop := s.writes = start ∨ s.writeFault (s.writes - 1) = none

end Storage

/-- A text that was set is found. -/
theorem Table.get?_set (key text : String) (t : Table) : (t.set key text).get? key = some text := by
  unfold Table.get?
  induction t with
  | nil => simp [Table.set]
  | cons entry rest ih =>
    rw [Table.set]
    split
    · rename_i hkey
      simp [hkey]
    · rename_i hkey
      have hne : (key == entry.1) = false := by simpa using Ne.symm hkey
      rw [List.lookup_cons, hne]
      exact ih

/-- After a write that did not fail, the key has the text that was written. -/
theorem Storage.value_set {s : Storage} (key text : String) (h : s.writeFault s.writes = none) :
    (s.set key text).1.value key = .string text := by
  simp only [Storage.set, h, Storage.value, Storage.raw?, Table.get?_set]
  rfl

theorem Storage.set_writes (s : Storage) (key text : String) : (s.set key text).1.writes = s.writes + 1 := by
  unfold Storage.set
  split <;> rfl

namespace History

/-- Since write number `start`: the entries are tidy, and they are what the stored value stands for, unless the last
write has failed. -/
structure Kept (start : Nat) (h : History) : Prop where
  tidy : Tidy h.capacity h.entries
  readsBack : h.storage.ReadsBack
  since : start ≤ h.storage.writes
  kept : h.storage.Saved start → ∃ notes, load h.capacity (h.storage.value h.key) = .ok (h.entries, notes)

/-- A walk has no part in what is kept. -/
theorem Kept.edited {start : Nat} {h h' : History} (hk : Kept start h) (hedit : h.Edited h')
    (hentries : h'.entries = h.entries) : Kept start h' := by
  refine ⟨hedit.tidy hk.tidy, hedit.storage ▸ hk.readsBack, hedit.storage ▸ hk.since, fun hsaved => ?_⟩
  rw [hedit.storage] at hsaved ⊢
  rw [hedit.capacity, hedit.key, hentries]
  exact hk.kept hsaved

/-- What is read back from a store that did not fail is what the stored value stands for. -/
theorem found_of_load {h : History} (hr : h.storage.ReadsBack) {entries : List String} {notes : List LogRecord}
    (hload : load h.capacity (h.storage.value h.key) = .ok (entries, notes)) : h.found = entries := by
  rw [found, Storage.get_of_readsBack hr]
  simp only [hload]

/-- Saving keeps the entries, or fails: then it was the last write. -/
theorem persist_kept {start : Nat} {h : History} (ht : Tidy h.capacity h.entries) (hr : h.storage.ReadsBack)
    (hsince : start ≤ h.storage.writes) : Kept start h.persist.state := by
  have halike := Storage.set_alike h.storage h.key (Json.encodeStrings h.entries)
  have hwrites := Storage.set_writes h.storage h.key (Json.encodeStrings h.entries)
  rw [persist_state]
  refine ⟨ht, hr.alike halike, by simp only [hwrites]; omega, ?_⟩
  intro hsaved
  simp only [Storage.Saved, hwrites, halike.writeFault, Nat.add_sub_cancel] at hsaved
  have hnone : h.storage.writeFault h.storage.writes = none := hsaved.resolve_left (by omega)
  refine ⟨[], ?_⟩
  simp only [Storage.value_set h.key _ hnone]
  rw [load_encodeStrings, admitted_of_tidy ht, takeLast_of_length_le ht.fits]

theorem perform_kept {start : Nat} {h : History} (hk : Kept start h) (op : Op) : Kept start (h.perform op).state := by
  rcases h.perform_cases op with ⟨hedit, hentries⟩ | ⟨h', hedit, hsaved⟩ | hread
  · exact hk.edited hedit hentries
  · rw [hsaved]
    exact persist_kept (hedit.tidy hk.tidy) (hedit.storage ▸ hk.readsBack) (hedit.storage ▸ hk.since)
  · rw [hread, restore_state]
    refine ⟨found_tidy h, hk.readsBack.alike (Storage.get_alike _ h.key), hk.since, fun hsaved => ?_⟩
    obtain ⟨notes, hload⟩ := hk.kept hsaved
    refine ⟨notes, ?_⟩
    rw [found_of_load hk.readsBack hload]
    exact hload

theorem performAll_kept {start : Nat} (ops : List Op) :
    ∀ {h : History}, Kept start h → Kept start (h.performAll ops) := by
  induction ops with
  | nil => exact fun hk => hk
  | cons op ops ih => exact fun hk => ih (perform_kept hk op)

theorem performAll_samePlace (ops : List Op) : ∀ h : History, h.SamePlace (h.performAll ops) := by
  induction ops with
  | nil => exact fun _ => ⟨rfl, rfl, Storage.Alike.refl _⟩
  | cons op ops ih =>
    intro h
    have hfirst := perform_samePlace h op
    have hrest := ih (h.perform op).state
    exact ⟨hrest.key.trans hfirst.key, hrest.capacity.trans hfirst.capacity, hfirst.storage.trans hrest.storage⟩

/-- A history that was opened without a failure keeps what it has read. -/
theorem restore_kept {h : History} (hr : h.storage.ReadsBack) (hok : h.restore.result = .ok ()) :
    Kept h.storage.writes h.restore.state := by
  have hread := Storage.get_of_readsBack hr h.key
  cases hload : load h.capacity (h.storage.value h.key) with
  | error f => simp [restore, hread, hload] at hok
  | ok loaded =>
    obtain ⟨entries, notes⟩ := loaded
    rw [restore_state]
    refine ⟨found_tidy h, hr.alike (Storage.get_alike _ h.key), Nat.le_refl _, fun _ => ⟨notes, ?_⟩⟩
    rw [found_of_load hr hload]
    exact hload

/-- What is kept is read back by a second history, as far as it fits. -/
theorem restore_of_kept {start : Nat} {h : History} (hk : Kept start h) (hsaved : h.storage.Saved start)
    {smaller : Nat} (hle : smaller ≤ h.capacity) (second : History) (hs : second.storage = h.storage)
    (hkey : second.key = h.key) (hcap : second.capacity = smaller) :
    second.restore.result = .ok () ∧ second.restore.state.entries = takeLast smaller h.entries ∧
      second.restore.state.cursor = -1 := by
  obtain ⟨notes, hload⟩ := hk.kept hsaved
  have hread : (second.storage.get second.key).2 = .ok (h.storage.value h.key) := by
    rw [hs, hkey, Storage.get_of_readsBack hk.readsBack]
  have hsmaller := load_smaller hle hload
  refine ⟨?_, ?_, ?_⟩
  · simp [restore, hread, hcap, hsmaller]
  · simp [restore, hread, hcap, hsmaller]
  · rw [restore_state]
    rfl

/-- A history that is opened on a store which reads back what was written, and used in any way, even if writes fail:
where the last write did not fail, a second history on that store has the last entries of the first one, as many as fit,
all of them if it is as large; it is at the live line. -/
theorem reopened_entries (storage : Storage) (key : String) (capacity : Int) (hr : storage.ReadsBack)
    {opened : Step History Unit} (hopen : init storage capacity key = .ok opened) (hok : opened.result = .ok ())
    (ops : List Op) (hsaved : (opened.state.performAll ops).storage.Saved storage.writes)
    (capacity' : Int) (hc : 1 ≤ capacity') (hle : capacity' ≤ capacity) :
    ∃ reopened, init (opened.state.performAll ops).storage capacity' key = .ok reopened ∧
      reopened.result = .ok () ∧
      reopened.state.entries = takeLast capacity'.toNat (opened.state.performAll ops).entries ∧
      (capacity' = capacity → reopened.state.entries = (opened.state.performAll ops).entries) ∧
      reopened.state.cursor = -1 := by
  have hroom : ¬ capacity < 1 := by omega
  have hroom' : ¬ capacity' < 1 := by omega
  rw [init, if_neg hroom, Except.ok.injEq] at hopen
  subst hopen
  have hkept := performAll_kept ops (restore_kept (h := { storage, key, capacity := capacity.toNat }) hr hok)
  have hplace := performAll_samePlace ops (restore { storage, key, capacity := capacity.toNat }).state
  have hfirst := perform_samePlace { storage, key, capacity := capacity.toNat } .restore
  have hcap := (hplace.capacity.trans hfirst.capacity).trans (rfl : _ = capacity.toNat)
  have hkey := hplace.key.trans hfirst.key
  generalize (restore { storage, key, capacity := capacity.toNat }).state.performAll ops = h at *
  have hsmaller : capacity'.toNat ≤ h.capacity := by
    rw [hcap]
    exact Int.toNat_le_toNat hle
  obtain ⟨hresult, hentries, hcursor⟩ := restore_of_kept hkept hsaved hsmaller
    { storage := h.storage, key, capacity := capacity'.toNat } rfl hkey.symm rfl
  refine ⟨_, by rw [init, if_neg hroom'], hresult, hentries, ?_, hcursor⟩
  rintro rfl
  rw [hentries]
  exact takeLast_of_length_le (Nat.le_trans hkept.tidy.fits (Nat.le_of_eq hcap))

namespace LostWrite

/-- A store whose second write fails. -/
def store : Storage where
  writeFault n := if n = 1 then some (.fault ⟨.os, "disk full"⟩) else none

/-- A history of three lines on it. -/
def opened : Step History Unit := restore { storage := store, key := "lines", capacity := 3 }

/-- Three lines are recorded, of which the second one is lost with its write; a blank one is not. -/
def ops : List Op :=
  [.record "say \"hi\"\n", .record "lost", .navigate (.string "up") "draft", .record "   ", .record "\\ é 😀\x00"]

theorem store_readsBack : store.ReadsBack := by
  constructor <;> (intro n; rfl)

theorem ops_saved : (opened.state.performAll ops).storage.Saved store.writes := Or.inr rfl

end LostWrite

open LostWrite in
/-- The third write brings the entry back whose write was lost: a second history of two lines has the last two. -/
theorem reopened_entries_lostWrite :
    store.ReadsBack ∧ init store 3 "lines" = .ok opened ∧ opened.result = .ok () ∧
      (opened.state.performAll ops).storage.Saved store.writes ∧ (1 : Int) ≤ 2 ∧ (2 : Int) ≤ 3 ∧
      ∃ reopened, init (opened.state.performAll ops).storage 2 "lines" = .ok reopened ∧
        reopened.result = .ok () ∧ reopened.state.entries = ["lost", "\\ é 😀\x00"] ∧ reopened.state.cursor = -1 := by
  obtain ⟨reopened, hinit, hresult, hentries, -, hcursor⟩ :=
    @reopened_entries store "lines" 3 store_readsBack opened rfl rfl ops ops_saved 2 (by decide) (by decide)
  have hlast : takeLast (2 : Int).toNat (opened.state.performAll ops).entries = ["lost", "\\ é 😀\x00"] :=
    by decide +kernel
  exact ⟨store_readsBack, rfl, rfl, ops_saved, by decide, by decide, reopened, hinit, hresult,
    hentries.trans hlast, hcursor⟩

end History

end CommandConsole
