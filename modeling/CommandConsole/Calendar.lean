/-!
# Dates and times of day

`Date`, `Clock` and an offset from universal time in minutes make up the dated values of a configuration file. `text` writes
them in the international form, `display` as the expression that builds them.
-/

namespace CommandConsole

/-- A number in decimal digits, zeros in front up to a width. -/
def padded (width n : Nat) : String :=
  let ds := toString n
  String.ofList (List.replicate (width - ds.length) '0') ++ ds

/-- A day of the calendar. -/
structure Date where
  year : Nat
  month : Nat
  day : Nat
  deriving Repr, DecidableEq

/-- A time of day. -/
structure Clock where
  hour : Nat
  minute : Nat
  second : Nat
  micro : Nat := 0
  deriving Repr, DecidableEq

/-- Whether a year has a twenty-ninth of February. -/
def isLeapYear (y : Nat) : Bool := (y % 4 = 0 ∧ y % 100 ≠ 0) ∨ y % 400 = 0

/-- How many days a month has. -/
def daysInMonth (y m : Nat) : Nat :=
  if m = 2 then (if isLeapYear y then 29 else 28) else if m = 4 ∨ m = 6 ∨ m = 9 ∨ m = 11 then 30 else 31

/-- A date that the calendar has. -/
def Date.isValid (d : Date) : Bool :=
  1 ≤ d.year ∧ d.year ≤ 9999 ∧ 1 ≤ d.month ∧ d.month ≤ 12 ∧ 1 ≤ d.day ∧ d.day ≤ daysInMonth d.year d.month

/-- A date as year, month and day. -/
def Date.text (d : Date) : String := s!"{padded 4 d.year}-{padded 2 d.month}-{padded 2 d.day}"

/-- A time of day as hour, minute and second, and six places of the second unless they are zero. -/
def Clock.text (t : Clock) : String :=
  let whole := s!"{padded 2 t.hour}:{padded 2 t.minute}:{padded 2 t.second}"
  if t.micro = 0 then whole else s!"{whole}.{padded 6 t.micro}"

/-- An offset from universal time as a sign, hours and minutes. -/
def offsetText (minutes : Int) : String :=
  let m := minutes.natAbs
  (if minutes < 0 then "-" else "+") ++ s!"{padded 2 (m / 60)}:{padded 2 (m % 60)}"

/-- The parts of a time of day, from the hour down; seconds and their fraction only where they are not zero. -/
def Clock.parts (t : Clock) : List Nat :=
  if t.micro ≠ 0 then [t.hour, t.minute, t.second, t.micro]
  else if t.second ≠ 0 then [t.hour, t.minute, t.second]
  else [t.hour, t.minute]

/-- Numbers with commas between them. -/
def commaSeparated (ns : List Nat) : String := ", ".intercalate (ns.map toString)

/-- The expression that builds a date. -/
def Date.display (d : Date) : String := s!"datetime.date({commaSeparated [d.year, d.month, d.day]})"

/-- The expression that builds a time of day. -/
def Clock.display (t : Clock) : String := s!"datetime.time({commaSeparated t.parts})"

/-- The expression that builds an offset; a negative one counts forward from the day before. -/
def offsetDisplay (minutes : Int) : String :=
  if minutes = 0 then "datetime.timezone.utc"
  else if minutes < 0 then s!"datetime.timezone(datetime.timedelta(days=-1, seconds={86400 + minutes * 60}))"
  else s!"datetime.timezone(datetime.timedelta(seconds={minutes * 60}))"

/-- The expression that builds a date with a time of day. -/
def dateTimeDisplay (d : Date) (t : Clock) (offset : Option Int) : String :=
  let zone := match offset with
    | none => ""
    | some minutes => s!", tzinfo={offsetDisplay minutes}"
  s!"datetime.datetime({commaSeparated ([d.year, d.month, d.day] ++ t.parts)}{zone})"

/-- A date with a time of day, the two set apart by a separator. -/
def dateTimeText (separator : String) (d : Date) (t : Clock) (offset : Option Int) : String :=
  d.text ++ separator ++ t.text ++ (offset.map offsetText).getD ""

/-- The day that lies some days after the first of January 1970. Years are counted from March on, in cycles of four hundred
years, which have 146097 days each. -/
def Date.ofDays (days : Nat) : Date :=
  let shifted := days + 719468
  let day := shifted % 146097
  let year := (day - day / 1460 + day / 36524 - day / 146096) / 365
  let dayOfYear := day - (365 * year + year / 4 - year / 100)
  let month := (5 * dayOfYear + 2) / 153
  let year := year + shifted / 146097 * 400
  let dayOfMonth := dayOfYear - (153 * month + 2) / 5 + 1
  if month < 10 then ⟨year, month + 3, dayOfMonth⟩ else ⟨year + 1, month - 9, dayOfMonth⟩

/-- The time of day some seconds after midnight. -/
def Clock.ofSeconds (seconds : Nat) : Clock := ⟨seconds / 3600, seconds / 60 % 60, seconds % 60, 0⟩

/-- The universal time some seconds after the beginning of 1970. -/
def secondsText (seconds : Nat) : String :=
  dateTimeText " " (.ofDays (seconds / 86400)) (.ofSeconds (seconds % 86400)) none

end CommandConsole
