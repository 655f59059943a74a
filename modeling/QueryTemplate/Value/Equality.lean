import QueryTemplate.Value.Basic

/-!
# Strict equality

Two values are equal only when they have the same shape: the integer one differs from the double
one. Doubles are compared as numbers, so a value that holds a NaN differs from itself. Maps are
compared entry by entry in their order.
-/

namespace QueryTemplate.Value

mutual

/-- Strict equality of two values. -/
def same : Value → Value → Bool
  | null, null => true
  | bool a, bool b => a == b
  | int a, int b => a == b
  | float a, float b => a.same b
  | string a, string b => a == b
  | list a, list b => sameItems a b
  | map a, map b => sameEntries a b
  | _, _ => false

/-- Strict equality of two lists, item by item. -/
def sameItems : List Value → List Value → Bool
  | [], [] => true
  | a :: as, b :: bs => same a b && sameItems as bs
  | _, _ => false

/-- Strict equality of two maps, entry by entry. -/
def sameEntries : List (String × Value) → List (String × Value) → Bool
  | [], [] => true
  | (j, a) :: as, (k, b) :: bs => j == k && same a b && sameEntries as bs
  | _, _ => false

end

end QueryTemplate.Value
