import CommandConsole.Number.Binary64

/-!
# Notations with a given number of digits

How a finite number is written when the number of its digits is asked for: with fixed places, in scientific form, or in the
shorter of the two. Numbers are rounded to the nearest, a tie to the even digit. Signs are left to the caller.
-/

namespace CommandConsole.Binary64

/-- Decimal digits with a point before the last `places`; `pointed` asks for the point where no digit follows it. -/
def pointedDigits (pointed : Bool) (n places : Nat) : String :=
  let ds := (toString n).toList
  let ds := List.replicate (places + 1 - ds.length) '0' ++ ds
  let whole := ds.take (ds.length - places)
  let tail := ds.drop (ds.length - places)
  String.ofList (whole ++ (if tail.isEmpty ∧ ¬ pointed then [] else '.' :: tail))

/-- A number with a fixed number of places. -/
def fixedText (pointed : Bool) (x : Binary64) (places : Nat) : String :=
  let (num, den) := x.fraction
  pointedDigits pointed (roundDiv (num * Nat.pow 10 places) den) places

/-- The first digits of a number, one and `places` more, and the power of ten of the first one. -/
def leadingDigits (x : Binary64) (places : Nat) : Nat × Int :=
  let (num, den) := x.fraction
  if num = 0 then (0, 0)
  else
    let power := pointOf num den - 1
    let shift := (places : Int) - power
    let n :=
      if shift ≥ 0 then roundDiv (num * Nat.pow 10 shift.toNat) den else roundDiv num (den * Nat.pow 10 (-shift).toNat)
    if n = Nat.pow 10 (places + 1) then (Nat.pow 10 places, power + 1) else (n, power)

/-- A number in scientific form. -/
def scientificText (pointed : Bool) (x : Binary64) (places : Nat) : String :=
  let (n, power) := x.leadingDigits places
  pointedDigits pointed n places ++ exponentText power

/-- A text of digits without the zeros at the end of its fraction, and without a point at its end. -/
def trimFraction (s : String) : String :=
  if s.contains '.' then
    let cs := s.toList.reverse.dropWhile (· = '0')
    String.ofList (if cs.head? = some '.' then cs.tail else cs).reverse
  else s

/-- From its first digit other than zero to its last one, no number has more digits than these. -/
def mostDigits : Nat := 767

/-- A number with some digits in all, in scientific form only if it is very large or very small; `pointed` keeps the zeros
at the end. -/
def generalText (pointed : Bool) (x : Binary64) (digits : Nat) : String :=
  let digits := max (if pointed then digits else min digits mostDigits) 1
  let (n, power) := x.leadingDigits (digits - 1)
  let trim (s : String) : String := if pointed then s else trimFraction s
  if -4 ≤ power ∧ power < digits then trim (x.fixedText pointed ((digits : Int) - 1 - power).toNat)
  else trim (pointedDigits pointed n (digits - 1)) ++ exponentText power

end CommandConsole.Binary64
