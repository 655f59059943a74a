import QueryTemplate.Json.Writer
import QueryTemplate.Value.Basic

/-!
# Parameters from JSON

A JSON value becomes a parameter of the same shape: integers of 64 bits with a sign are integers,
all other numbers are doubles. How a text is read as a JSON value is left to a parser.
-/

namespace QueryTemplate

namespace Json

def Number.toValue : Number → Value
  | natural n =>
    if n.toNat < Double.int64Span then .int (Int64.ofNat n.toNat)
    else .float (Double.ofNat n.toNat)
  | negative n => .int n
  | real x _ => .float x

mutual

/-- The value of the same shape. -/
def toValue : Json → Value
  | null => .null
  | bool b => .bool b
  | number n => n.toValue
  | string s => .string s
  | array items => .list (toValues items)
  | object members => .map (toEntries members)

def toValues : List Json → List Value
  | [] => []
  | j :: rest => j.toValue :: toValues rest

def toEntries : List (String × Json) → List (String × Value)
  | [] => []
  | (key, j) :: rest => (key, j.toValue) :: toEntries rest

end

theorem toValues_eq_map (items : List Json) : toValues items = items.map toValue := by
  induction items with
  | nil => rfl
  | cons j items ih => rw [toValues, ih, List.map_cons]

theorem toEntries_eq_map (members : List (String × Json)) :
    toEntries members = members.map fun m => (m.1, m.2.toValue) := by
  induction members with
  | nil => rfl
  | cons m members ih => rw [toEntries, ih, List.map_cons]

end Json

/-- The value that a JSON text denotes. -/
def Value.ofJson? (parse : String → Option Json) (text : String) : Option Value :=
  (parse text).map Json.toValue

inductive ParamsError where
  | notJson
  | notArray (found : Json)

def ParamsError.message : ParamsError → String
  | notJson => "invalid --params JSON"
  | notArray found => "--params must be a JSON array, got: " ++ found.written

/-- The parameters that a JSON array denotes. -/
def paramsOfJson (parse : String → Option Json) (text : String) :
    Except ParamsError (List Value) :=
  match parse text with
  | none => .error .notJson
  | some (.array items) => .ok (Json.toValues items)
  | some other => .error (.notArray other)

end QueryTemplate
