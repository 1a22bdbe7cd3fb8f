import Mathlib.Data.List.Basic
import Mathlib.Data.List.Nodup
import CommandConsole.Value

/-!
# Entries under keys

Entries are built by assignments, of which the last one to a key counts: `last?` finds it. What `put` and `putAll` make of
entries is said by the values that are found in them (`lookup_put`, `lookup_putAll`), and no key gets there twice
(`putAll_nodup`), so finding a value and having an entry are the same (`lookup_eq_some_iff_mem`). Assignments may also be
collected by themselves first (`putAll_collected`).
-/

namespace CommandConsole.Entries

/-- The value that some assignments give to a name, the last one of them counting. -/
def last? (name : String) (assignments : Entries) : Option Value := assignments.reverse.lookup name

variable {entries base more : Entries} {name : String}

/-! ## Values -/

/-- The value under a name is that of the first entry with this key. -/
theorem lookup_cons (e : String × Value) (entries : Entries) (name : String) :
    List.lookup name (e :: entries) = if name = e.1 then some e.2 else entries.lookup name := by
  rw [List.lookup_cons]
  by_cases hname : name = e.1
  · simp [hname]
  · rw [if_neg hname, beq_false_of_ne hname]

/-- Setting a key gives it the value and leaves the values of all other keys. -/
theorem lookup_put (key : String) (v : Value) (entries : Entries) (name : String) :
    (put key v entries).lookup name = if name = key then some v else entries.lookup name := by
  induction entries with
  | nil => exact lookup_cons (key, v) [] name
  | cons e entries ih =>
    obtain ⟨k, w⟩ := e
    rw [put, lookup_cons]
    by_cases hk : k = key
    · rw [if_pos hk, lookup_cons, hk]
      by_cases hname : name = key <;> simp [hname]
    · rw [if_neg hk, lookup_cons, ih]
      by_cases hname : name = k
      · simp [hname, hk]
      · simp [hname]

/-- Setting many keys gives each of them the value that is assigned to it last. -/
theorem lookup_putAll (base more : Entries) (name : String) :
    (putAll base more).lookup name = (last? name more).or (base.lookup name) := by
  induction more generalizing base with
  | nil => rfl
  | cons e more ih =>
    show (putAll (put e.1 e.2 base) more).lookup name = _
    rw [ih, lookup_put, last?, last?, List.reverse_cons, List.lookup_append, Option.or_assoc, lookup_cons]
    by_cases hname : name = e.1 <;> simp [hname]

/-- The first result of a list is that of its head, or else the first one of its tail. -/
theorem findSome?_cons_or {α β : Type} (f : α → Option β) (a : α) (l : List α) :
    (a :: l).findSome? f = (f a).or (l.findSome? f) := by
  rw [List.findSome?_cons]
  cases f a <;> rfl

/-- What is the same on a list has the same first result there. -/
theorem findSome?_congr {α β : Type} {f g : α → Option β} {l : List α} (h : ∀ a ∈ l, f a = g a) :
    l.findSome? f = l.findSome? g := by
  induction l with
  | nil => rfl
  | cons a l ih =>
    rw [List.forall_mem_cons] at h
    rw [findSome?_cons_or, findSome?_cons_or, h.1, ih h.2]

/-- Setting keys in one go after the other gives each key the value of the last go that assigns one to it. -/
theorem lookup_foldl_putAll (goes : List Entries) (base : Entries) (name : String) :
    (goes.foldl putAll base).lookup name = (goes.reverse.findSome? (last? name)).or (base.lookup name) := by
  induction goes generalizing base with
  | nil => rfl
  | cons more goes ih =>
    rw [List.foldl_cons, ih, lookup_putAll, List.reverse_cons, List.findSome?_append, Option.or_assoc, findSome?_cons_or,
      List.findSome?_nil, Option.or_none]

/-! ## Keys -/

/-- Setting a key changes no other one, and adds it at the end if it is not there. -/
theorem keys_put (key : String) (v : Value) (entries : Entries) :
    (put key v entries).map (·.1) =
      if key ∈ entries.map (·.1) then entries.map (·.1) else entries.map (·.1) ++ [key] := by
  induction entries with
  | nil => rfl
  | cons e entries ih =>
    obtain ⟨k, w⟩ := e
    rw [put]
    by_cases hk : k = key
    · simp [hk]
    · rw [if_neg hk, List.map_cons, List.map_cons, ih]
      simp only [List.mem_cons, Ne.symm hk, false_or]
      split <;> rfl

/-- No key is there twice after a key has been set. -/
theorem put_nodup (h : (entries.map (·.1)).Nodup) (key : String) (v : Value) :
    ((put key v entries).map (·.1)).Nodup := by
  rw [keys_put]
  split
  · exact h
  · rename_i hnew
    rw [← List.concat_eq_append]
    exact h.concat hnew

/-- No key is there twice after many keys have been set. -/
theorem putAll_nodup (h : (base.map (·.1)).Nodup) (more : Entries) : ((putAll base more).map (·.1)).Nodup := by
  induction more generalizing base with
  | nil => exact h
  | cons e more ih => exact ih (put_nodup h e.1 e.2)

/-- No key is there twice after keys have been set in many goes. -/
theorem foldl_putAll_nodup (h : (base.map (·.1)).Nodup) (goes : List Entries) :
    ((goes.foldl putAll base).map (·.1)).Nodup := by
  induction goes generalizing base with
  | nil => exact h
  | cons more goes ih => exact ih (putAll_nodup h more)

/-- The keys after many assignments are those from before and those that are assigned. -/
theorem mem_keys_putAll {base more : Entries} {name : String} :
    name ∈ (putAll base more).map (·.1) ↔ name ∈ base.map (·.1) ∨ name ∈ more.map (·.1) := by
  induction more generalizing base with
  | nil => simp [putAll]
  | cons e more ih =>
    show name ∈ (putAll (put e.1 e.2 base) more).map (·.1) ↔ _
    rw [ih, keys_put, List.map_cons, List.mem_cons, ← or_assoc]
    split
    · rename_i hmem
      rw [or_iff_left_of_imp (b := name = e.1) (fun heq => heq ▸ hmem)]
    · rw [List.mem_append, List.mem_singleton]

/-- Where no key is there twice, a value is found under a name exactly if there is an entry with both. -/
theorem lookup_eq_some_iff_mem (h : (entries.map (·.1)).Nodup) {v : Value} :
    entries.lookup name = some v ↔ (name, v) ∈ entries := by
  induction entries with
  | nil => simp
  | cons e entries ih =>
    obtain ⟨k, w⟩ := e
    rw [List.map_cons, List.nodup_cons] at h
    rw [lookup_cons]
    by_cases hname : name = k
    · have hnone : (k, v) ∉ entries := fun hmem => h.1 (List.mem_map.mpr ⟨(k, v), hmem, rfl⟩)
      simp [hname, hnone, eq_comm]
    · simp [hname, ih h.2]

/-! ## Assignments on top of others -/

/-- Of two values that a key is set to, the second one counts. -/
theorem put_put_same (key : String) (v w : Value) (entries : Entries) :
    put key v (put key w entries) = put key v entries := by
  induction entries with
  | nil => simp [put]
  | cons e entries ih =>
    obtain ⟨k, u⟩ := e
    by_cases hk : k = key <;> simp [put, hk, ih]

/-- A key that is there already is set in its place, whatever other key is set before or after it. -/
theorem put_put_comm {key other : String} (hne : key ≠ other) (v w : Value) (h : key ∈ entries.map (·.1)) :
    put key v (put other w entries) = put other w (put key v entries) := by
  induction entries with
  | nil => cases h
  | cons e entries ih =>
    obtain ⟨k, u⟩ := e
    by_cases hk : k = key
    · subst hk
      simp [put, hne]
    · have hrest : key ∈ entries.map (·.1) := by
        simpa [Ne.symm hk] using h
      by_cases ho : k = other
      · subst ho
        simp [put, hk]
      · simp [put, hk, ho, ih hrest]

/-- A key that is there already, and is not set again, may be set after many others as well. -/
theorem putAll_put_of_mem {key : String} (v : Value) (hmem : key ∈ base.map (·.1)) (hnew : key ∉ more.map (·.1)) :
    putAll (put key v base) more = put key v (putAll base more) := by
  induction more generalizing base with
  | nil => rfl
  | cons e more ih =>
    rw [List.map_cons, List.mem_cons, not_or] at hnew
    have hkept : key ∈ (put e.1 e.2 base).map (·.1) := by
      rw [keys_put]
      split
      · exact hmem
      · exact List.mem_append_left _ hmem
    show putAll (put e.1 e.2 (put key v base)) more = put key v (putAll (put e.1 e.2 base) more)
    rw [← put_put_comm hnew.1 v e.2 hmem, ih hkept hnew.2]

/-- Setting a key among assignments is setting it after them. -/
theorem putAll_put (base : Entries) (h : (more.map (·.1)).Nodup) (key : String) (v : Value) :
    putAll base (put key v more) = put key v (putAll base more) := by
  induction more generalizing base with
  | nil => rfl
  | cons e more ih =>
    obtain ⟨k, w⟩ := e
    rw [List.map_cons, List.nodup_cons] at h
    by_cases hk : k = key
    · subst hk
      have hmem : k ∈ (put k w base).map (·.1) := by
        rw [keys_put]
        split <;> simp_all
      rw [put, if_pos rfl]
      show putAll (put k v base) more = put k v (putAll (put k w base) more)
      rw [← putAll_put_of_mem v hmem h.1, put_put_same]
    · rw [put, if_neg hk]
      exact ih (put k w base) h.2

/-- Assignments that are collected first come to the same as those that are made one after the other. -/
theorem putAll_putAll (base : Entries) {collected : Entries} (h : (collected.map (·.1)).Nodup) (more : Entries) :
    putAll base (putAll collected more) = putAll (putAll base collected) more := by
  induction more generalizing collected with
  | nil => rfl
  | cons e more ih =>
    show putAll base (putAll (put e.1 e.2 collected) more) = putAll (put e.1 e.2 (putAll base collected)) more
    rw [ih (put_nodup h e.1 e.2), putAll_put base h]

/-- Assignments that are collected by themselves first come to the same. -/
theorem putAll_collected (base more : Entries) : putAll base (putAll [] more) = putAll base more :=
  putAll_putAll base (by simp) more

/-- Many assignments and then others. -/
theorem putAll_append (base more others : Entries) : putAll base (more ++ others) = putAll (putAll base more) others :=
  List.foldl_append

/-! ## The last value of a name -/

/-- A name that is no key has no value. -/
theorem last?_eq_none (h : name ∉ entries.map (·.1)) : last? name entries = none := by
  rw [last?, List.lookup_eq_none_iff]
  intro e he
  rw [bne_iff_ne]
  rintro rfl
  exact h (List.mem_map_of_mem (List.mem_reverse.mp he))

/-- The last value of a name is one that it is assigned, and never again after that. -/
theorem last?_eq_some_iff {assignments : Entries} {v : Value} :
    last? name assignments = some v ↔
      ∃ before after, assignments = before ++ (name, v) :: after ∧ ∀ e ∈ after, e.1 ≠ name := by
  rw [last?, List.lookup_eq_some_iff]
  constructor
  · rintro ⟨after, before, hsplit, hother⟩
    refine ⟨before.reverse, after.reverse, ?_, fun e he => ?_⟩
    · rw [← List.reverse_reverse assignments, hsplit]
      simp
    · exact Ne.symm (bne_iff_ne.mp (hother e (List.mem_reverse.mp he)))
  · rintro ⟨before, after, rfl, hother⟩
    refine ⟨after.reverse, before.reverse, by simp, fun e he => ?_⟩
    exact bne_iff_ne.mpr (Ne.symm (hother e (List.mem_reverse.mp he)))

/-- Where no key is there twice, the last value of a name is the only one. -/
theorem last?_eq_lookup (h : (entries.map (·.1)).Nodup) : last? name entries = entries.lookup name := by
  have hreverse : (entries.reverse.map (·.1)).Nodup := by
    rw [List.map_reverse]
    exact List.nodup_reverse.mpr h
  ext v
  rw [last?, lookup_eq_some_iff_mem hreverse, lookup_eq_some_iff_mem h, List.mem_reverse]

/-- Collected into entries, assignments give each name the value that they gave to it last. -/
theorem last?_putAll_nil (assignments : Entries) (name : String) :
    last? name (putAll [] assignments) = last? name assignments := by
  have hnodup : ((putAll [] assignments).map (·.1)).Nodup := putAll_nodup (by simp) assignments
  rw [last?_eq_lookup hnodup, lookup_putAll, List.lookup_nil, Option.or_none]

end CommandConsole.Entries
