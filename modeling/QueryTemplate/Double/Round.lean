import QueryTemplate.Double.Basic

/-!
# Rounding to binary64

Every operation here forms the exact result as a quotient of natural numbers and rounds it once,
to the nearest double and to the even one of two at the same distance.
-/

namespace QueryTemplate.Double

/-- The natural number nearest to `n / d`; the even one of two at the same distance. -/
def divEven (n d : Nat) : Nat :=
  if 2 * (n % d) < d then n / d
  else if d < 2 * (n % d) then n / d + 1
  else n / d + n / d % 2

/-- The magnitude nearest to `n / d` units. The quotient is first scaled to a significand of
53 bits, or of fewer when it lies below the normal range; a significand that rounds up to
`2 ^ 53` carries into the exponent. -/
def magnitudeOf (n d : Nat) : Nat :=
  let places := Nat.log2 (n / d) - 52
  min infinityMagnitude (places * exponentUnit + divEven n (d <<< places))

theorem magnitudeOf_lt (n d : Nat) : magnitudeOf n d < signBit :=
  Nat.lt_of_le_of_lt (Nat.min_le_left _ _) infinityMagnitude_lt

/-- The double nearest to `n / d`, with the given sign. -/
def ofRatio (negative : Bool) (n d : Nat) : Double :=
  ⟨negative, magnitudeOf (n * unitsPerOne) d, magnitudeOf_lt _ _⟩

def ofNat (n : Nat) : Double := ofRatio false n 1

def ofInt (n : Int) : Double := ofRatio (decide (n < 0)) n.natAbs 1

def digitCount (n : Nat) : Nat := (Nat.toDigits 10 n).length

/-- The double nearest to `n * 10 ^ e`, with the given sign. A number of at least `10 ^ 400` is
infinite and one below `10 ^ (-400)` is zero, so that no greater power of ten is ever formed. -/
def ofDecimal (negative : Bool) (n : Nat) (e : Int) : Double :=
  if n = 0 then zero negative
  else if 400 < e then infinity negative
  else if e + digitCount n < -400 then zero negative
  else if 0 ≤ e then ofRatio negative (n * Nat.pow 10 e.toNat) 1
  else ofRatio negative n (Nat.pow 10 (-e).toNat)

def mul (x y : Double) : Double :=
  ⟨x.negative != y.negative, magnitudeOf (x.units * y.units) unitsPerOne, magnitudeOf_lt _ _⟩

/-- The rounded quotient of two finite numbers, the second not zero. -/
def div (x y : Double) : Double :=
  ofRatio (x.negative != y.negative) x.units y.units

def neg (x : Double) : Double := { x with negative := !x.negative }

def nan (negative : Bool) : Double := ⟨negative, 0x7FF8000000000000, by decide⟩

/-- The double with the value of a binary32 number given by its 32 bits: its sign, 8 bits of
exponent and 23 of fraction. No rounding is needed, since a unit of binary32 is `2 ^ (-149)`. -/
def ofBinary32 (bits : Nat) : Double :=
  let negative := bits / 0x80000000 % 2 == 1
  let magnitude := bits % 0x80000000
  let places := magnitude / 0x800000 - 1
  if magnitude < 0x7F800000 then
    ofRatio negative ((magnitude - places * 0x800000) <<< places) (1 <<< 149)
  else if magnitude = 0x7F800000 then infinity negative
  else nan negative

end QueryTemplate.Double
