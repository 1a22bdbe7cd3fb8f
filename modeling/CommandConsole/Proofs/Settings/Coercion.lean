import CommandConsole.Proofs.Value
import CommandConsole.Proofs.History.Replay
import CommandConsole.Proofs.Settings.Location
import CommandConsole.Proofs.Text.Integer
import CommandConsole.Settings.Build

/-!
# What the values of settings are taken for

Each kind of setting takes a value for its text, or refuses it. For each of them there is one lemma that says which values
it takes, and for what (`requiredText_eq_ok`, `greeting_eq_ok`, `size_eq_ok`, `switch_eq_ok`, and `checked_eq_ok` for all
that are checked); it refuses all others as bad values. Numbers and switches are read from texts also where a value is a
number or a switch itself (`number_eq`, `switch_eq`).
-/

namespace CommandConsole.Settings

/-! ## Faults of values -/

/-- A sequence gives a result if its first part does, and its second part does with that. -/
theorem bind_eq_ok {ε α β : Type} {r : Except ε α} {next : α → Except ε β} {b : β} :
    r >>= next = .ok b ↔ ∃ a, r = .ok a ∧ next a = .ok b := by
  cases r with
  | error e => simp [bind, Except.bind]
  | ok a => simp [bind, Except.bind]

theorem map_eq_ok {ε α β : Type} {r : Except ε α} {g : α → β} {b : β} : r.map g = .ok b ↔ ∃ a, r = .ok a ∧ g a = b := by
  cases r with
  | error e => simp [Except.map]
  | ok a => simp [Except.map]

theorem map_eq_error {ε α β : Type} {r : Except ε α} {g : α → β} {e : ε} : r.map g = .error e ↔ r = .error e := by
  cases r with
  | error e' => simp [Except.map]
  | ok a => simp [Except.map]

/-- Nothing goes wrong but that a value does not fit. -/
abbrev OnlyBadValues {α : Type} (r : Except Fault α) : Prop := FailsOnly (fun f => f.kind = .value) r

/-! ## Texts -/

theorem written_onlyBadValues (v : Value) : OnlyBadValues (Value.written v) := by
  rw [Value.written]
  split
  · exact .ok _
  · exact .error rfl

/-- A text switches an optional setting off: a blank one, or `none` in any case and between any blanks. -/
def IsOff (t : String) : Prop := allBlank t = true ∨ lowerCase (strip t) = "none"

instance (t : String) : Decidable (IsOff t) := inferInstanceAs (Decidable (_ ∨ _))

/-- The words that switch a setting off. -/
theorem isOff_iff {t : String} : IsOff t ↔ lowerCase (strip t) ∈ ["", "none"] := by
  have hblank : allBlank t = true ↔ lowerCase (strip t) = "" := by
    constructor
    · intro h
      have hempty : strip t = "" := by simpa [h] using strip_isEmpty t
      rw [hempty]
      rfl
    · intro h
      by_contra hfilled
      rw [← strip_isEmpty, Bool.not_eq_true] at hfilled
      have hnot := allBlank_lowerCase (strip_notBlank hfilled)
      rw [h] at hnot
      cases hnot
  rw [IsOff, hblank]
  simp

/-- The text that is given to an optional setting, if it does not switch it off. -/
def given? (t : String) : Option String := if IsOff t then none else some t

theorem given?_eq_some {t s : String} : given? t = some s ↔ ¬ IsOff t ∧ t = s := by
  rw [given?]
  split <;> simp_all

/-- An optional setting takes a value for its text; nothing at all is switched off, as is its text. -/
theorem optionalText_eq (v : Value) : optionalText v = (Value.written v).map given? := by
  have hgiven : given? = fun s => if lowerCase (strip s) ∈ ["", "none"] then none else some s := by
    funext s
    simp only [given?, isOff_iff]
  cases v with
  | null => decide
  | _ =>
    rw [optionalText, hgiven]
    rintro ⟨⟩

theorem optionalText_eq_ok {v : Value} {t? : Option String} :
    optionalText v = .ok t? ↔ ∃ t, Value.written v = .ok t ∧ given? t = t? := by
  rw [optionalText_eq, map_eq_ok]

theorem optionalText_onlyBadValues (v : Value) : OnlyBadValues (optionalText v) := by
  rw [optionalText_eq]
  exact (written_onlyBadValues v).map given?

/-! ## Settings -/

/-- The value that some entries give to a setting. -/
def settingOf (entries : Entries) (name : String) : Value := (entries.lookup name).getD .null

variable {v : Value}

/-- A setting that must be given takes what does not switch it off. -/
theorem requiredText_eq_ok {name t : String} : requiredText name v = .ok t ↔ Value.written v = .ok t ∧ ¬ IsOff t := by
  simp only [requiredText, bind_eq_ok, optionalText_eq_ok]
  constructor
  · rintro ⟨_ | s, ⟨u, hu, hgiven⟩, hs⟩
    · cases hs
    · cases hs
      obtain ⟨hon, rfl⟩ := given?_eq_some.mp hgiven
      exact ⟨hu, hon⟩
  · rintro ⟨ht, hon⟩
    exact ⟨some t, ⟨t, ht, given?_eq_some.mpr ⟨hon, rfl⟩⟩, rfl⟩

theorem requiredText_onlyBadValues (name : String) (v : Value) : OnlyBadValues (requiredText name v) := by
  refine (optionalText_onlyBadValues v).bind fun t? => ?_
  cases t? with
  | none => exact .error rfl
  | some t => exact .ok t

/-- A greeting takes any text, with its line feeds written out. -/
theorem greeting_eq_ok {w? : Option String} :
    greeting v = .ok w? ↔
      ∃ t, Value.written v = .ok t ∧ (given? t).map (fun s => String.ofList (unescapeNewlines s.toList)) = w? := by
  simp only [greeting, map_eq_ok, optionalText_eq_ok]
  constructor
  · rintro ⟨_, ⟨t, ht, rfl⟩, hw⟩
    exact ⟨t, ht, hw⟩
  · rintro ⟨t, ht, hw⟩
    exact ⟨_, ⟨t, ht, rfl⟩, hw⟩

theorem greeting_onlyBadValues (v : Value) : OnlyBadValues (greeting v) := (optionalText_onlyBadValues v).map _

/-- What a text is read as, or the fault that shows the value it is the text of. -/
def orRefused {α : Type} (noun : String) (v : Value) : Option α → Except Fault α
  | some a => .ok a
  | none => .error (.badValue s!"Expected {noun}, got: {v.display}")

theorem orRefused_eq_ok {α : Type} {noun : String} {read? : Option α} {a : α} :
    orRefused noun v read? = .ok a ↔ read? = some a := by
  cases read? <;> simp [orRefused]

/-- A number is read from the text of a value, also where the value is a number itself. -/
theorem number_eq (h : Value.isWritable v = true) :
    number v = orRefused "integer" v (parseInteger (strip v.text)).toOption := by
  have htext : Value.written v = .ok v.text := Value.written_eq_ok.mpr ⟨h, rfl⟩
  cases v with
  | int n =>
    have hback : parseInteger (strip (Value.int n).text) = .ok n := by
      show parseInteger (strip (toString n)) = .ok n
      rw [strip_toString_int]
      exact parseInteger_toString ((Value.isWritable_int n).mp h)
    rw [hback]
    rfl
  | _ =>
    simp only [number, htext, bind, Except.bind]
    cases parseInteger _ <;> rfl

/-- A value stands for a number: it is an integer, or its text is one. -/
def Spells (v : Value) (n : Int) : Prop := v = .int n ∨ ∃ t, Value.written v = .ok t ∧ parseInteger (strip t) = .ok n

/-- A number takes the values that stand for one. -/
theorem number_eq_ok {n : Int} : number v = .ok n ↔ Spells v n := by
  cases h : Value.isWritable v with
  | true =>
    have hread : ∀ r : Except IntegerError Int, r.toOption = some n ↔ r = .ok n := by
      rintro (e | m) <;> simp [Except.toOption]
    rw [number_eq h, orRefused_eq_ok, hread]
    constructor
    · intro hn
      exact Or.inr ⟨v.text, Value.written_eq_ok.mpr ⟨h, rfl⟩, hn⟩
    · rintro (rfl | ⟨t, ht, hn⟩)
      · exact (hread _).mp (orRefused_eq_ok.mp (number_eq h).symm)
      · obtain ⟨-, rfl⟩ := Value.written_eq_ok.mp ht
        exact hn
  | false =>
    have hnone := Value.written_ne_ok h
    cases v with
    | int m => simp [number, Spells, hnone]
    | _ => simp [number, bind_eq_ok, Spells, hnone]

theorem number_onlyBadValues (v : Value) : OnlyBadValues (number v) := by
  cases v with
  | int n => exact .ok n
  | _ =>
    refine (written_onlyBadValues _).bind fun t => ?_
    split
    · exact .ok _
    · exact .error rfl

/-- The history takes the numbers that leave room in it. -/
theorem size_eq_ok {n : Int} : size v = .ok n ↔ Spells v n ∧ 1 ≤ n := by
  simp only [size, bind_eq_ok, number_eq_ok]
  constructor
  · rintro ⟨m, hm, hn⟩
    split at hn
    · cases hn
    · cases hn
      exact ⟨hm, by omega⟩
  · rintro ⟨hn, hroom⟩
    exact ⟨n, hn, by simp [Int.not_lt.mpr hroom]; rfl⟩

theorem size_onlyBadValues (v : Value) : OnlyBadValues (size v) := by
  refine (number_onlyBadValues v).bind fun n => ?_
  split
  · exact .error rfl
  · exact .ok n

/-- A switch is read from the text of a value, also where the value is a switch itself. -/
theorem switch_eq (h : Value.isWritable v = true) :
    switch v = orRefused "boolean" v (switchWords.lookup (lowerCase (strip v.text))) := by
  have htext : Value.written v = .ok v.text := Value.written_eq_ok.mpr ⟨h, rfl⟩
  cases v with
  | bool b => cases b <;> decide
  | _ =>
    simp only [switch, htext, bind, Except.bind]
    cases switchWords.lookup _ <;> rfl

/-- No word stands for both positions of a switch. -/
theorem switchWords_lookup {word : String} {b : Bool} : switchWords.lookup word = some b ↔ (word, b) ∈ switchWords := by
  constructor
  · exact mem_of_lookup
  · have hall : ∀ e ∈ switchWords, switchWords.lookup e.1 = some e.2 := by decide
    exact hall (word, b)

/-- A switch takes the words for its positions, in any case and between any blanks. -/
theorem switch_eq_ok {b : Bool} :
    switch v = .ok b ↔ ∃ t, Value.written v = .ok t ∧ (lowerCase (strip t), b) ∈ switchWords := by
  cases h : Value.isWritable v with
  | true =>
    rw [switch_eq h, orRefused_eq_ok, switchWords_lookup]
    simp [Value.written_eq_ok, h]
  | false =>
    have hnone := Value.written_ne_ok h
    cases v with
    | bool b => cases h
    | _ => simp [switch, bind_eq_ok, hnone]

theorem switch_onlyBadValues (v : Value) : OnlyBadValues (switch v) := by
  cases v with
  | bool b => exact .ok b
  | _ =>
    refine (written_onlyBadValues _).bind fun t => ?_
    split
    · exact .ok _
    · exact .error rfl

/-! ## Optional settings that are checked -/

/-- What a check makes of an optional text. -/
def checked (check : String → Except Fault String) : Option String → Except Fault (Option String)
  | none => .ok none
  | some t => (check t).map some

/-- An optional setting takes what passes its check, and what switches it off. -/
theorem checked_eq_ok {check : String → Except Fault String} {out? : Option String} :
    (optionalText v >>= checked check) = .ok out? ↔
      ∃ t, Value.written v = .ok t ∧
        (IsOff t ∧ out? = none ∨ ¬ IsOff t ∧ ∃ out, check t = .ok out ∧ out? = some out) := by
  simp only [bind_eq_ok, optionalText_eq_ok]
  constructor
  · rintro ⟨_, ⟨t, ht, rfl⟩, hout⟩
    refine ⟨t, ht, ?_⟩
    by_cases hoff : IsOff t
    · simp only [given?, if_pos hoff, checked] at hout
      exact Or.inl ⟨hoff, (Except.ok.inj hout).symm⟩
    · simp only [given?, if_neg hoff, checked, map_eq_ok] at hout
      obtain ⟨out, hcheck, rfl⟩ := hout
      exact Or.inr ⟨hoff, out, hcheck, rfl⟩
  · rintro ⟨t, ht, ⟨hoff, rfl⟩ | ⟨hon, out, hcheck, rfl⟩⟩
    · exact ⟨none, ⟨t, ht, if_pos hoff⟩, rfl⟩
    · exact ⟨some t, ⟨t, ht, if_neg hon⟩, map_eq_ok.mpr ⟨out, hcheck, rfl⟩⟩

/-- What an optional setting is given has passed its check. -/
theorem check_of_checked {check : String → Except Fault String} {out : String}
    (h : (optionalText v >>= checked check) = .ok (some out)) : ∃ t, check t = .ok out := by
  obtain ⟨t, -, ⟨-, hnone⟩ | ⟨-, passed, hcheck, hout⟩⟩ := checked_eq_ok.mp h
  · cases hnone
  · cases hout
    exact ⟨t, hcheck⟩

theorem checked_onlyBadValues {check : String → Except Fault String} (h : ∀ t, OnlyBadValues (check t)) (v : Value) :
    OnlyBadValues (optionalText v >>= checked check) := by
  refine (optionalText_onlyBadValues v).bind fun t? => ?_
  cases t? with
  | none => exact .ok none
  | some t => exact (h t).map some

/-- The check of a package that a value names. -/
def packageCheck (v : Value) (t : String) : Except Fault String :=
  if isPackageName t then .ok t
  else .error (.badValue s!"PLUGIN_PACKAGE must be a dotted module name, got {quotePoints v.points}")

theorem package_eq (v : Value) : package v = optionalText v >>= checked (packageCheck v) := by
  rw [package]
  congr 1
  funext t?
  cases t? with
  | none => rfl
  | some t =>
    simp only [checked, packageCheck]
    split <;> rfl

theorem packageCheck_eq_ok {t out : String} : packageCheck v t = .ok out ↔ isPackageName t = true ∧ t = out := by
  rw [packageCheck]
  split <;> simp_all

theorem package_onlyBadValues (v : Value) : OnlyBadValues (package v) := by
  rw [package_eq]
  refine checked_onlyBadValues (fun t => ?_) v
  rw [packageCheck]
  split
  · exact .ok t
  · exact .error rfl

/-- The check of a level that a value names; it is taken in upper case. -/
def levelCheck (v : Value) (t : String) : Except Fault String :=
  if upperCase t ∈ levelNames then .ok (upperCase t)
  else
    let choice := (Value.list (levelNames.map .string)).display
    .error (.badValue s!"LOG_LEVEL must be one of {choice}, got {quotePoints (upperPoints v.points)}")

theorem level_eq (v : Value) : level v = optionalText v >>= checked (levelCheck v) := by
  rw [level]
  congr 1
  funext t?
  cases t? with
  | none => rfl
  | some t =>
    simp only [checked, levelCheck, Option.map_some]
    split <;> rfl

theorem levelCheck_eq_ok {t out : String} : levelCheck v t = .ok out ↔ upperCase t ∈ levelNames ∧ upperCase t = out := by
  rw [levelCheck]
  split <;> simp_all

theorem level_onlyBadValues (v : Value) : OnlyBadValues (level v) := by
  rw [level_eq]
  refine checked_onlyBadValues (fun t => ?_) v
  rw [levelCheck]
  split
  · exact .ok _
  · exact .error rfl

theorem path_eq (h : Host) (v : Value) : path h v = optionalText v >>= checked fun _ => h.resolve v.points := rfl

/-- Nothing goes wrong but that a value does not fit, or that a location leads nowhere. -/
abbrev OnlyRefusals {α : Type} (h : Host) (r : Except Fault α) : Prop := FailsOnly h.Refusal r

theorem OnlyBadValues.refusals {α : Type} {r : Except Fault α} (hr : OnlyBadValues r) (h : Host) : OnlyRefusals h r :=
  hr.mono fun _ hvalue => .misfit (Or.inl hvalue)

theorem path_onlyRefusals (h : Host) (v : Value) : OnlyRefusals h (path h v) := by
  rw [path_eq]
  refine ((optionalText_onlyBadValues v).refusals h).bind fun t? => ?_
  cases t? with
  | none => exact .ok none
  | some t => exact (Host.resolve_refusal v.points).map some

end CommandConsole.Settings
