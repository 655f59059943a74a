import QueryTemplate.Double.Round

/-!
# JSON values

A number is a natural number below `2 ^ 64`, a negative 64-bit integer, or a finite double. The
members of an object keep their order.
-/

namespace QueryTemplate

inductive Json.Number where
  | natural (n : UInt64)
  | negative (n : Int64)
  | real (x : Double) (isFinite : x.isFinite = true)

inductive Json where
  | null
  | bool (b : Bool)
  | number (n : Json.Number)
  | string (s : String)
  | array (items : List Json)
  | object (members : List (String × Json))

namespace Json

/-- A finite double as a number. -/
def Number.real? (x : Double) : Option Number :=
  if h : x.isFinite = true then some (.real x h) else none

/-- Adds a member to an object. A key that is there keeps its place and takes the new value. -/
def insertMember (key : String) (value : Json) : List (String × Json) → List (String × Json)
  | [] => [(key, value)]
  | (k, v) :: rest =>
    if k = key then (k, value) :: rest else (k, v) :: insertMember key value rest

/-- The object with the given members, of which the last one counts among those with the same
key. -/
def objectOf (members : List (String × Json)) : Json :=
  .object (members.foldl (fun found m => insertMember m.1 m.2 found) [])

end Json

end QueryTemplate
