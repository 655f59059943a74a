/-!
# Binary64 numbers

A `Double` is a sign and the 63 bits under it, read as one number: 11 bits of exponent above 52
of fraction. Every finite double is a whole number of units of `2 ^ (-1074)`, the smallest
positive double, so its absolute value is the natural number `units`, and comparison and
truncation are exact arithmetic on it.
-/

namespace QueryTemplate

/-- A binary64 number: its sign and its 63 bits of exponent and fraction. -/
structure Double where
  negative : Bool
  magnitude : Nat
  magnitude_lt : magnitude < 0x8000000000000000
  deriving DecidableEq

namespace Double

def signBit : Nat := 0x8000000000000000

/-- The lowest bit of the exponent: there are `2 ^ 52` fractions under it. -/
def exponentUnit : Nat := 0x10000000000000

/-- The magnitude of the infinities. Smaller magnitudes are finite, greater ones are NaN. -/
def infinityMagnitude : Nat := 0x7FF0000000000000

theorem infinityMagnitude_lt : infinityMagnitude < signBit := by decide

/-- The number with the given 64 bits; bits above them are ignored. -/
def ofBits (bits : Nat) : Double :=
  ⟨bits / signBit % 2 == 1, bits % signBit, Nat.mod_lt _ (by decide)⟩

def bits (x : Double) : Nat := (if x.negative then signBit else 0) + x.magnitude

def zero (negative : Bool) : Double := ⟨negative, 0, by decide⟩

def infinity (negative : Bool) : Double :=
  ⟨negative, infinityMagnitude, infinityMagnitude_lt⟩

instance : Inhabited Double := ⟨zero false⟩

def isNaN (x : Double) : Bool := decide (infinityMagnitude < x.magnitude)

def isFinite (x : Double) : Bool := decide (x.magnitude < infinityMagnitude)

def isZero (x : Double) : Bool := x.magnitude == 0

/-- Numeric equality: the two zeros are equal, and a NaN differs from every number. -/
def same (x y : Double) : Bool :=
  !x.isNaN && !y.isNaN && (x.isZero && y.isZero || x == y)

/-- The number of binary places by which the significand is shifted over the unit. -/
def shift (x : Double) : Nat := x.magnitude / exponentUnit - 1

/-- The significand: below `2 ^ 53`, and at least `2 ^ 52` unless the number is subnormal. -/
def significand (x : Double) : Nat := x.magnitude - x.shift * exponentUnit

/-- The absolute value of a finite number, counted in units of `2 ^ (-1074)`. -/
def units (x : Double) : Nat := x.significand <<< x.shift

def unitsPerOne : Nat := 1 <<< 1074

/-- The whole part of a finite number: its value rounded toward zero. -/
def truncate (x : Double) : Int :=
  if x.negative then -(x.units / unitsPerOne : Nat) else (x.units / unitsPerOne : Nat)

/-- The number of integers from zero up that 64 bits with a sign hold, `2 ^ 63`. -/
def int64Span : Nat := 0x8000000000000000

/-- Whether a number is finite, at least `-2 ^ 63` and below `2 ^ 63`. -/
def inInt64Range (x : Double) : Bool :=
  x.isFinite &&
    if x.negative then decide (x.units ≤ int64Span * unitsPerOne)
    else decide (x.units < int64Span * unitsPerOne)

/-- The whole part as a 64-bit integer, for the numbers in range. -/
def toInt64? (x : Double) : Option Int64 :=
  if x.inInt64Range then some (Int64.ofInt x.truncate) else none

/-- The whole part as a 64-bit integer, clamped to the range; zero for a NaN. -/
def toInt64Clamp (x : Double) : Int64 :=
  if x.isNaN then 0
  else match x.toInt64? with
    | some n => n
    | none => if x.negative then Int64.minValue else Int64.maxValue

end Double

end QueryTemplate
