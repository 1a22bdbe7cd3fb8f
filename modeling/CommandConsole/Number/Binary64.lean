/-!
# Binary floating-point numbers

A `Binary64` holds the 64 bits of a number: a sign, eleven bits of exponent and 52 of fraction. `ofDecimal` rounds a decimal
number to the nearest one, a tie to the even fraction, and `shortest` gives the fewest decimal digits that round back to it
and, among those, the nearest. Both work in exact integer arithmetic.
-/

namespace CommandConsole

/-- A floating-point number, by its bits. -/
structure Binary64 where
  bits : UInt64
  deriving Repr, DecidableEq

namespace Binary64

/-- Not a number. -/
def nan : Binary64 := ⟨0x7FF8000000000000⟩

/-- Infinity of a sign. -/
def infinity (negative : Bool) : Binary64 := ⟨if negative then 0xFFF0000000000000 else 0x7FF0000000000000⟩

/-- The sign bit. -/
def negative (x : Binary64) : Bool := x.bits ≥ 0x8000000000000000

/-- The biased exponent. -/
def exponentField (x : Binary64) : Nat := (x.bits.toNat / Nat.pow 2 52) % Nat.pow 2 11

/-- The fraction. -/
def fractionField (x : Binary64) : Nat := x.bits.toNat % Nat.pow 2 52

/-- Neither infinite nor undefined. -/
def isFinite (x : Binary64) : Bool := x.exponentField ≠ 2047

/-- Zero, of either sign. -/
def isZero (x : Binary64) : Bool := x.exponentField = 0 ∧ x.fractionField = 0

/-- The integer `m` of a finite number `± m * 2 ^ (q - 1074)`. -/
def significand (x : Binary64) : Nat :=
  if x.exponentField = 0 then x.fractionField else Nat.pow 2 52 + x.fractionField

/-- The exponent `q` of a finite number `± m * 2 ^ (q - 1074)`. -/
def scale (x : Binary64) : Nat := x.exponentField - 1

/-- The number `± m * 2 ^ (q - 1074)` for `m` below `2 ^ 53`, infinity if it is too large. -/
def pack (neg : Bool) (m q : Nat) : Binary64 :=
  let magnitude := if m < Nat.pow 2 52 then m else (q + 1) * Nat.pow 2 52 + (m - Nat.pow 2 52)
  if q ≥ 2046 then infinity neg else ⟨UInt64.ofNat ((if neg then Nat.pow 2 63 else 0) + magnitude)⟩

/-- A quotient rounded to the nearest integer, a tie to the even one. -/
def roundDiv (num den : Nat) : Nat :=
  let n := num / den
  let twice := 2 * (num % den)
  if twice > den ∨ (twice = den ∧ n % 2 = 1) then n + 1 else n

/-- The number nearest to a positive fraction `num / den`. -/
def ofFraction (neg : Bool) (num den : Nat) : Binary64 :=
  -- The fraction lies between `2 ^ (top - 1)` and `2 ^ (top + 1)`, where `top` is the difference of the two logarithms.
  let scaled := num * Nat.pow 2 1074
  let q := scaled.log2 - den.log2 - 53
  let q := if scaled / (den * Nat.pow 2 q) ≥ Nat.pow 2 53 then q + 1 else q
  let m := roundDiv scaled (den * Nat.pow 2 q)
  if m = Nat.pow 2 53 then pack neg (Nat.pow 2 52) (q + 1) else pack neg m q

/-- How many decimal digits a natural number has; zero has one. -/
def digitCount (n : Nat) : Nat := (Nat.toDigits 10 n).length

/-- The number nearest to `± m * 10 ^ e`. -/
def ofDecimal (neg : Bool) (m : Nat) (e : Int) : Binary64 :=
  let size := (digitCount m : Int) + e
  if m = 0 ∨ size < -400 then pack neg 0 0
  else if size > 400 then infinity neg
  else if e ≥ 0 then ofFraction neg (m * Nat.pow 10 e.toNat) 1
  else ofFraction neg m (Nat.pow 10 (-e).toNat)

/-- A positive decimal number `0.d₁d₂… * 10 ^ point`, its digits spelt by the integer `digits`. -/
structure Decimal where
  digits : Nat
  point : Int
  deriving Repr, DecidableEq

/-- The fraction `num / den` that a finite number is equal to, its sign left aside. -/
def fraction (x : Binary64) : Nat × Nat :=
  if x.scale ≥ 1074 then (x.significand * Nat.pow 2 (x.scale - 1074), 1)
  else (x.significand, Nat.pow 2 (1074 - x.scale))

/-- The position `k` of the decimal point of a positive fraction: it is below `10 ^ k` and not below `10 ^ (k - 1)`. -/
def pointOf (num den : Nat) : Int :=
  if num ≥ den then digitCount (num / den) else 1 - (digitCount ((den + num - 1) / num - 1) : Int)

/-- A decimal with `n` digits that rounds to `x`: of the two neighbours of `x` with that many digits the nearer one. -/
def neighbour? (x : Binary64) (n : Nat) : Option Decimal :=
  let (num, den) := x.fraction
  let point := pointOf num den
  -- In units of the last of `n` digits, `x` is `a / b`, and the halves of its gaps are `above / b` and `below / b`.
  let shift := (n : Int) - point
  let a := 4 * (if shift ≥ 0 then num * Nat.pow 10 shift.toNat else num)
  let b := 4 * (if shift ≥ 0 then den else den * Nat.pow 10 (-shift).toNat)
  let above := a / x.significand / 2
  let below := if x.fractionField = 0 ∧ x.exponentField > 1 then above / 2 else above
  let even := x.significand % 2 = 0
  let low := a / b
  let downGap := a - low * b
  let upGap := (low + 1) * b - a
  let downFits : Bool := downGap < below ∨ (downGap = below ∧ even)
  let upFits : Bool := upGap < above ∨ (upGap = above ∧ even)
  let takeLow := downFits ∧ (¬ upFits ∨ downGap < upGap ∨ (downGap = upGap ∧ low % 2 = 0))
  if takeLow then some ⟨low, point⟩
  else if upFits then some (if low + 1 = Nat.pow 10 n then ⟨1, point + 1⟩ else ⟨low + 1, point⟩)
  else none

/-- The fewest digits that round back to a finite number other than zero; seventeen always do. -/
def shortest (x : Binary64) : Decimal :=
  ((List.range 17).findSome? fun n => x.neighbour? (n + 1)).getD ⟨0, 0⟩

/-- The text of an exponent: a sign and at least two digits. -/
def exponentText (e : Int) : String :=
  let digits := toString e.natAbs
  (if e < 0 then "e-" else "e+") ++ (if digits.length < 2 then "0" ++ digits else digits)

/-- The text of a positive decimal: positional from `0.0001` to below `10 ^ 16`, always with a fraction; else in scientific
form, with a fraction only if there is more than one digit. -/
def Decimal.text (d : Decimal) : String :=
  let ds := toString d.digits
  let count : Int := ds.length
  let zeros (n : Int) : String := String.ofList (List.replicate n.toNat '0')
  if d.point ≤ -4 ∨ d.point > 16 then
    let tail := String.ofList ds.toList.tail
    String.ofList (ds.toList.take 1) ++ (if tail.isEmpty then "" else "." ++ tail) ++ exponentText (d.point - 1)
  else if d.point ≤ 0 then "0." ++ zeros (-d.point) ++ ds
  else if d.point ≥ count then ds ++ zeros (d.point - count) ++ ".0"
  else String.ofList (ds.toList.take d.point.toNat) ++ "." ++ String.ofList (ds.toList.drop d.point.toNat)

/-- The text of a number. -/
def text (x : Binary64) : String :=
  let sign := if x.negative then "-" else ""
  if x.isFinite then sign ++ (if x.isZero then "0.0" else x.shortest.text)
  else if x.fractionField ≠ 0 then "nan"
  else sign ++ "inf"

end Binary64

end CommandConsole
