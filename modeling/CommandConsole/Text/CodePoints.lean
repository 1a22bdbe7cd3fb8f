/-!
# Sets of code points and mappings on them

`CodePoints` is a set of code points as inclusive ranges, `Shift` a run of code points that a case mapping moves by one
distance. The tables of the character classes and of the two case mappings are values of these types.
-/

namespace CommandConsole

/-- A set of code points, as inclusive ranges. -/
abbrev CodePoints := List (Nat × Nat)

/-- A character belongs to a set when one of its ranges covers the character's code point. -/
def CodePoints.has (set : CodePoints) (c : Char) : Bool :=
  set.any fun (first, last) => first ≤ c.toNat && c.toNat ≤ last

/-- The code points `first, first + stride, …, last`, which a mapping sends to `target, target + stride, …`. -/
structure Shift where
  first : Nat
  last : Nat
  stride : Nat
  target : Nat
  deriving Repr, DecidableEq

/-- The image of a code point under a shift, if the shift covers it. -/
def Shift.image? (s : Shift) (n : Nat) : Option Nat :=
  if s.first ≤ n ∧ n ≤ s.last ∧ (n - s.first) % s.stride = 0 then some (s.target + (n - s.first)) else none

/-- A mapping from characters to texts: characters with a text of their own, then shifts; all others stay as they are. -/
structure CharMap where
  expansions : List (Nat × List Nat)
  shifts : List Shift

/-- The text that a mapping puts in the place of a character. -/
def CharMap.apply (m : CharMap) (c : Char) : List Char :=
  match m.expansions.lookup c.toNat with
  | some text => text.map Char.ofNat
  | none =>
    match m.shifts.findSome? (·.image? c.toNat) with
    | some n => [Char.ofNat n]
    | none => [c]

end CommandConsole
