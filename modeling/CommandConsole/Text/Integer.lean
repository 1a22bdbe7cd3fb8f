import CommandConsole.Text.Blank
import CommandConsole.Text.Decimal

/-!
# Integers in decimal text

An integer is written with an optional sign and decimal digits of any script, where single underscores may stand between
two digits. Texts of more than `maxDigits` digits are refused with an error of their own.
-/

namespace CommandConsole

/-- The greatest number of digits an integer text may have. -/
def maxDigits : Nat := 4300

/-- Why a text is no integer. -/
inductive IntegerError where
  | malformed
  | tooLong (digits : Nat)
  deriving Repr, DecidableEq

/-- What is said of a text with too many digits. -/
def tooLongMessage (digits : Nat) : String :=
  s!"Exceeds the limit ({maxDigits} digits) for integer string conversion: value has {digits} digits; "
    ++ "use sys.set_int_max_str_digits() to increase the limit"

/-- The number that a list of digits spells in a base, most significant digit first. -/
def ofDigits (base : Nat) (ds : List Nat) : Nat := ds.foldl (fun n d => n * base + d) 0

/-- The digits of a text in which single underscores may separate digits; `none` if anything else stands in it. -/
def digitGroups? : List Char → Option (List Nat)
  | [] => none
  | [c] => (digitValue? c).map ([·])
  | c :: '_' :: cs => do
    let d ← digitValue? c
    let ds ← digitGroups? cs
    return d :: ds
  | c :: cs => do
    let d ← digitValue? c
    let ds ← digitGroups? cs
    return d :: ds

/-- The natural number that a text of digits and single underscores spells. -/
def parseNatural (cs : List Char) : Except IntegerError Nat :=
  match digitGroups? cs with
  | none => .error .malformed
  | some ds => if ds.length > maxDigits then .error (.tooLong ds.length) else .ok (ofDigits 10 ds)

/-- The integer that a text without outer blanks spells. -/
def parseInteger (s : String) : Except IntegerError Int :=
  match s.toList with
  | '-' :: cs => (parseNatural cs).map fun n => -Int.ofNat n
  | '+' :: cs => (parseNatural cs).map Int.ofNat
  | cs => (parseNatural cs).map Int.ofNat

end CommandConsole
