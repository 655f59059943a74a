import QueryTemplate.Error
import QueryTemplate.Numeral

/-!
# Coercion of scalars

The numeric placeholders first turn a scalar into an integer or into a double. Null stays null,
a string counts as the numeral at its head, and lists and maps are refused.
-/

namespace QueryTemplate

/-- The 64-bit integer nearest to an integer. -/
def clampInt64 (n : Int) : Int64 :=
  if n < Int64.minValue.toInt then Int64.minValue
  else if Int64.maxValue.toInt < n then Int64.maxValue
  else Int64.ofInt n

/-- The integer that a string counts as: exact for an integral numeral, otherwise the whole part
of the nearest double, clamped to the range in both cases; zero without a numeral. -/
def intOfText (s : String) : Int64 :=
  match Numeral.ofText? s with
  | none => 0
  | some n => if n.isIntegral then clampInt64 n.toInt else n.toDouble.toInt64Clamp

/-- The double that a string counts as; zero without a numeral. -/
def doubleOfText (s : String) : Double :=
  match Numeral.ofText? s with
  | none => Double.zero false
  | some n => n.toDouble

namespace Value

/-- A scalar as an integer. A double has to have its whole part in the range. -/
def coerceInt : Value → Except Refusal Value
  | null => .ok null
  | bool b => .ok (int (if b then 1 else 0))
  | int n => .ok (int n)
  | float x =>
    match x.toInt64? with
    | some n => .ok (int n)
    | none => .error ⟨.int, .float, .outOfRange x⟩
  | string s => .ok (int (intOfText s))
  | list _ => .error ⟨.int, .list, .notScalar⟩
  | map _ => .error ⟨.int, .map, .notScalar⟩

/-- A scalar as a double. -/
def coerceFloat : Value → Except Refusal Value
  | null => .ok null
  | bool b => .ok (float (Double.ofNat b.toNat))
  | int n => .ok (float (Double.ofInt n.toInt))
  | float x => .ok (float x)
  | string s => .ok (float (doubleOfText s))
  | list _ => .error ⟨.float, .list, .notScalar⟩
  | map _ => .error ⟨.float, .map, .notScalar⟩

end Value

end QueryTemplate
