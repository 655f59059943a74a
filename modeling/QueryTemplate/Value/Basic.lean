import QueryTemplate.Double.Basic

/-!
# Parameter values

A value is null, a scalar, a list, or a map that keeps the order of its entries and may repeat a
key.
-/

namespace QueryTemplate

inductive Value where
  | null
  | bool (b : Bool)
  | int (n : Int64)
  | float (x : Double)
  | string (s : String)
  | list (items : List Value)
  | map (entries : List (String × Value))
  deriving Inhabited

namespace Value

inductive Kind where
  | null
  | bool
  | int
  | float
  | string
  | list
  | map
  deriving DecidableEq

def Kind.name : Kind → String
  | null => "null"
  | bool => "bool"
  | int => "int"
  | float => "float"
  | string => "string"
  | list => "list"
  | map => "map"

def kind : Value → Kind
  | null => .null
  | bool _ => .bool
  | int _ => .int
  | float _ => .float
  | string _ => .string
  | list _ => .list
  | map _ => .map

def isNull (v : Value) : Bool := v.kind == .null

/-- Whether a value is neither a list nor a map. -/
def isScalar (v : Value) : Bool := v.kind != .list && v.kind != .map

/-- Whether the keys are the decimal texts of `start`, `start + 1`, ... in this order. -/
def keysCountFrom : (start : Nat) → List (String × Value) → Bool
  | _, [] => true
  | n, (key, _) :: rest => key == toString n && keysCountFrom (n + 1) rest

/-- The items of a list, or of a map whose keys count its entries from zero. -/
def items? : Value → Option (List Value)
  | list items => some items
  | map entries => if keysCountFrom 0 entries then some (entries.map (·.2)) else none
  | _ => none

/-- Whether a value has items: a list, or a map whose keys count its entries from zero. -/
def isListLike (v : Value) : Bool := v.items?.isSome

end Value

end QueryTemplate
