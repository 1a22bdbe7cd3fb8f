import CommandConsole.Proofs.Settings.Entries
import CommandConsole.Proofs.Text.UpperCase
import CommandConsole.Settings.Flat

/-!
# Flat settings come from leaves

Flattening nested tables is assigning their leaves, one after the other, each to the name that its keys make together
(`flatten_eq`): however deep the tables are nested, it does not matter that each of them is flattened by itself first. So
of all leaves with one name the last one counts (`last_leaf_counts`). Tables that are nested too deep are not flattened at
all (`deep_tables_refused`).
-/

namespace CommandConsole

/-- The name of a leaf: the keys that lead to it in upper case, joined by underscores. -/
def leafName (path : List String) : String := upperCase ("_".intercalate path)

/-! ## Names -/

/-- A key that is joined to the one before it is no longer a key of its own. -/
theorem leafName_joined (above key : String) (path : List String) :
    leafName ((above ++ "_" ++ key) :: path) = leafName (above :: key :: path) := by
  have hjoined : "_".intercalate ((above ++ "_" ++ key) :: path) = "_".intercalate (above :: key :: path) := by
    rw [String.intercalate_cons_of_ne_nil (List.cons_ne_nil key path)]
    cases path with
    | nil => simp
    | cons next path => simp [String.intercalate_cons_of_ne_nil, String.append_assoc]
  rw [leafName, hjoined, leafName]

/-- Joining one key after the other to a name, and upper-casing each time, is upper-casing all of them joined. -/
theorem foldl_joinName_upperCase (path : List String) {above : String} (habove : above ≠ "") :
    path.foldl joinName (upperCase above) = leafName (above :: path) := by
  induction path generalizing above with
  | nil => rfl
  | cons key path ih =>
    have hfilled : (upperCase above).isEmpty = false := by
      simpa [upperCase_eq_empty_iff] using habove
    have hstep : joinName (upperCase above) key = upperCase (above ++ "_" ++ key) := by
      rw [joinName, hfilled, if_neg Bool.false_ne_true]
      show upperCase (upperCase above ++ "_" ++ key) = _
      simp only [upperCase_append, upperCase_upperCase]
    have hnext : above ++ "_" ++ key ≠ "" := by simp [habove]
    rw [List.foldl_cons, hstep, ih hnext, leafName_joined]

/-- The keys that lead to a leaf are joined to its name, if none of them is empty. -/
theorem foldl_joinName {path : List String} (h : "" ∉ path) : path.foldl joinName "" = leafName path := by
  cases path with
  | nil => rfl
  | cons key path =>
    have hkey : key ≠ "" := fun hempty => h (hempty ▸ List.mem_cons_self)
    exact foldl_joinName_upperCase path hkey

/-! ## Assignments of leaves -/

/-- What leaves assign to the names that their keys are joined to. -/
def named (found : List (List String × Value)) : Entries := found.map fun (path, v) => (path.foldl joinName "", v)

mutual

/-- Flattening the entries of a table adds the values of their leaves to what is there, one after the other. -/
theorem flattenEntries_eq (path : List String) (flat : Entries) (entries : List (String × Value)) :
    flattenEntries (path.foldl joinName "") flat entries = Entries.putAll flat (named (leaves path entries)) := by
  match entries with
  | [] => rfl
  | (key, v) :: rest =>
    have hvalue := flattenValue_eq (path ++ [key]) flat v
    rw [List.foldl_append] at hvalue
    rw [flattenEntries, leaves, named, List.map_append, Entries.putAll_append]
    exact (congrArg (flattenEntries _ · rest) hvalue).trans (flattenEntries_eq path _ rest)

/-- A table is flattened by itself first, which makes no difference. -/
theorem flattenValue_eq (path : List String) (flat : Entries) (v : Value) :
    flattenValue (path.foldl joinName "") flat v = Entries.putAll flat (named (valueLeaves path v)) := by
  match v with
  | .table inner =>
    rw [flattenValue, flattenEntries_eq path [] inner, Entries.putAll_collected, valueLeaves]
  | .null | .bool _ | .int _ | .float _ | .string _ | .ragged _ | .date _ | .time _ | .dateTime .. | .list _ => rfl

end

variable {entries : Entries}

/-- Flattening is assigning each leaf to its name, if no key is empty. -/
theorem flatten_eq (h : ∀ leaf ∈ leaves [] entries, "" ∉ leaf.1) :
    flatten entries = Entries.putAll [] ((leaves [] entries).map fun (path, v) => (leafName path, v)) := by
  have hnames : named (leaves [] entries) = (leaves [] entries).map fun (path, v) => (leafName path, v) := by
    apply List.map_congr_left
    rintro ⟨path, v⟩ hleaf
    exact congrArg (·, v) (foldl_joinName (h (path, v) hleaf))
  rw [← hnames]
  exact flattenEntries_eq [] [] entries

/-- A flat setting has the value of the last leaf of its name. -/
theorem lookup_flatten (h : ∀ leaf ∈ leaves [] entries, "" ∉ leaf.1) {name : String} {v : Value} :
    (flatten entries).lookup name = some v ↔
      ∃ before path after, leaves [] entries = before ++ (path, v) :: after ∧ leafName path = name ∧
        ∀ leaf ∈ after, leafName leaf.1 ≠ name := by
  rw [flatten_eq h, Entries.lookup_putAll, List.lookup_nil, Option.or_none, Entries.last?_eq_some_iff]
  constructor
  · rintro ⟨before, after, hsplit, hother⟩
    obtain ⟨found, rest, hleaves, -, hrest⟩ := List.map_eq_append_iff.mp hsplit
    obtain ⟨⟨path, w⟩, later, rfl, hleaf, rfl⟩ := List.map_eq_cons_iff.mp hrest
    cases hleaf
    exact ⟨found, path, later, hleaves, rfl, fun leaf hleaf => hother _ (List.mem_map_of_mem hleaf)⟩
  · rintro ⟨before, path, after, hleaves, rfl, hother⟩
    refine ⟨_, _, by rw [hleaves, List.map_append, List.map_cons], fun e he => ?_⟩
    obtain ⟨leaf, hleaf, rfl⟩ := List.mem_map.mp he
    exact hother leaf hleaf

/-- The flat settings are those that some leaf gives its name to. -/
theorem mem_keys_flatten (h : ∀ leaf ∈ leaves [] entries, "" ∉ leaf.1) {name : String} :
    name ∈ (flatten entries).map (·.1) ↔ ∃ leaf ∈ leaves [] entries, leafName leaf.1 = name := by
  rw [flatten_eq h, Entries.mem_keys_putAll]
  simp

/-- **Of the leaves of a name the last one counts.** No key is empty. Then each flat setting has the value of the last of
the leaves, as they are written, of which the keys are joined to its name, and no other settings are there. Upper case is
made of a name character by character, and once is enough. All of this comes to nothing if the tables are nested deeper than
the caller has room for. -/
theorem last_leaf_counts (entries : Entries) (hkeys : ∀ leaf ∈ leaves [] entries, "" ∉ leaf.1) :
    (∀ s t, upperCase (s ++ t) = upperCase s ++ upperCase t) ∧ (∀ s, upperCase (upperCase s) = upperCase s) ∧
      ((flatten entries).map (·.1)).Nodup ∧
      (∀ name v, (flatten entries).lookup name = some v ↔
        ∃ before path after, leaves [] entries = before ++ (path, v) :: after ∧ leafName path = name ∧
          ∀ leaf ∈ after, leafName leaf.1 ≠ name) ∧
      (∀ name, name ∈ (flatten entries).map (·.1) ↔ ∃ leaf ∈ leaves [] entries, leafName leaf.1 = name) ∧
      ∀ room, (tableDepth entries ≤ room → flatten? room entries = .ok (flatten entries)) ∧
        (room < tableDepth entries → flatten? room entries = .error tooManyTables) := by
  refine ⟨upperCase_append, upperCase_upperCase, ?_, fun name v => lookup_flatten hkeys,
    fun name => mem_keys_flatten hkeys, fun room => ⟨fun hdepth => ?_, fun hdepth => ?_⟩⟩
  · rw [flatten_eq hkeys]
    exact Entries.putAll_nodup (by simp) _
  · rw [flatten?, if_pos hdepth]
  · rw [flatten?, if_neg (Nat.not_le.mpr hdepth)]

namespace Collision

/-- Tables in which one name is met on three ways, and another one only in an inner table. -/
def tables : Entries :=
  [("history", .table [("size", .int 1), ("Size", .int 2)]), ("history_size", .int 3),
   ("HISTORY", .table [("log", .table [("level", .list [.table [("size", .int 5)]])]), ("siZe", .int 4)])]

end Collision

open Collision in
/-- Where a nested table and a flat key meet in a name, what is written last counts. -/
theorem last_leaf_counts_collision :
    (∀ leaf ∈ leaves [] tables, "" ∉ leaf.1) ∧ tableDepth tables = 3 ∧
      flatten? 3 tables = .ok (flatten tables) ∧ flatten? 2 tables = .error tooManyTables ∧
      (flatten tables).lookup "HISTORY_SIZE" = some (.int 4) ∧
      (flatten tables).map (·.1) = ["HISTORY_SIZE", "HISTORY_LOG_LEVEL"] := by
  have hkeys : ∀ leaf ∈ leaves [] tables, "" ∉ leaf.1 := by decide +kernel
  have hdepth : tableDepth tables = 3 := by decide +kernel
  obtain ⟨-, -, -, hlast, -, hroom⟩ := last_leaf_counts tables hkeys
  refine ⟨hkeys, hdepth, (hroom 3).1 (by omega), (hroom 2).2 (by omega), ?_, by decide +kernel⟩
  exact (hlast _ _).mpr ⟨(leaves [] tables).dropLast, ["HISTORY", "siZe"], [], rfl, by decide +kernel, by simp⟩

/-! ## Tables that are nested too deep -/

/-- A leaf in so many tables. -/
def deep : Nat → Entries
  | 0 => [("x", .int 1)]
  | n + 1 => [("a", .table (deep n))]

theorem tableDepth_deep (n : Nat) : tableDepth (deep n) = n + 1 := by
  induction n with
  | zero => rfl
  | succ n ih => simp [deep, tableDepth, tableDepthOf, ih]

theorem leaves_deep (n : Nat) (path : List String) :
    leaves path (deep n) = [(path ++ List.replicate n "a" ++ ["x"], .int 1)] := by
  induction n generalizing path with
  | zero => simp [deep, leaves, valueLeaves]
  | succ n ih => simp [deep, leaves, valueLeaves, ih, List.replicate_succ]

/-- A leaf that lies too deep is not found under its name: there are no flat settings. The recursion limit is 1000, so that
no caller has room for more tables than that. -/
theorem deep_tables_refused :
    leaves [] (deep 1500) = [(List.replicate 1500 "a" ++ ["x"], .int 1)] ∧ maxTables ≤ 1000 ∧
      ∀ room ≤ 1000, ¬ ∃ flat, flatten? room (deep 1500) = .ok flat ∧
        flat.lookup (leafName (List.replicate 1500 "a" ++ ["x"])) = some (.int 1) := by
  refine ⟨leaves_deep 1500 [], by decide, fun room hroom => ?_⟩
  rintro ⟨flat, hflat, -⟩
  rw [flatten?, tableDepth_deep, if_neg (by omega)] at hflat
  cases hflat

end CommandConsole
