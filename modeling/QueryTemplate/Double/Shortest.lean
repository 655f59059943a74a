import QueryTemplate.Double.Round

/-!
# Shortest decimals

The shortest decimal of a finite double lies on the coarsest grid of a power of ten that has a
point reading back to the double. If any point of a grid reads back then one of the two that
enclose the number does, so only these two are tried; of two that read back the nearer is taken,
and `Tie` decides between two at the same distance.
-/

namespace QueryTemplate

/-- The number `digits * 10 ^ exponent`. -/
structure Decimal where
  digits : Nat
  exponent : Int
  deriving DecidableEq

/-- Which of two decimals at the same distance is taken. -/
inductive Tie where
  | up
  | even

namespace Double

/-- The absolute value of a finite number over `10 ^ e`, as a quotient. -/
def scaled (x : Double) (e : Int) : Nat × Nat :=
  if 0 ≤ e then (x.units, unitsPerOne * Nat.pow 10 e.toNat)
  else (x.units * Nat.pow 10 (-e).toNat, unitsPerOne)

/-- The point of the grid of `10 ^ e` that stands for the number, if one reads back. -/
def gridPoint? (tie : Tie) (x : Double) (e : Int) : Option Nat :=
  let (n, d) := x.scaled e
  let lower := n / d
  let upper := if n % d = 0 then lower else lower + 1
  let readsBack (point : Nat) : Bool := ofDecimal x.negative point e == x
  match readsBack lower, readsBack upper with
  | false, false => none
  | true, false => some lower
  | false, true => some upper
  | true, true =>
    if 2 * (n % d) < d then some lower
    else if d < 2 * (n % d) then some upper
    else match tie with
      | .up => some upper
      | .even => some (lower + lower % 2)

/-- The first of `count` grids, from `10 ^ e` downwards, with a point that reads back. -/
def firstGrid? (tie : Tie) (x : Double) : (count : Nat) → (e : Int) → Option Decimal
  | 0, _ => none
  | count + 1, e =>
    match x.gridPoint? tie e with
    | some point => some ⟨point, e⟩
    | none => firstGrid? tie x count (e - 1)

/-- An exponent `e` such that `10 ^ e` exceeds the absolute value of a finite number; it is
close, because `30103 / 100000` is the decimal logarithm of two to five places. -/
def gridAbove (x : Double) : Int :=
  (Int.fdiv (((x.units.log2 : Int) - 1073) * 30103) 100000) + 2

/-- The whole expansion: a unit is `5 ^ 1074 * 10 ^ (-1074)`. -/
def expansion (x : Double) : Decimal := ⟨x.units * Nat.pow 5 1074, -1074⟩

/-- The shortest decimal that reads back to a finite number. -/
def shortest (tie : Tie) (x : Double) : Decimal :=
  if x.isZero then ⟨0, 0⟩
  else (x.firstGrid? tie (x.gridAbove + 1074).toNat x.gridAbove).getD x.expansion

end Double

end QueryTemplate
