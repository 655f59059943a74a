/-!
# TOML values

Floats and dates keep their text. A number may be written well and have no value; whether that
matters is up to the reader of the document. A table remembers how it was made, for that decides
which later lines may add to it.
-/

namespace QueryTemplate

/-- How a table came to be. -/
inductive Toml.Origin where
  /-- Written between braces, and closed. -/
  | inline
  /-- By a header of its own, or as the whole document. -/
  | header
  /-- By the header of a table inside it. -/
  | implied
  /-- By a dotted key. -/
  | dotted
  deriving DecidableEq

/-- A TOML value. A number without a value is `valueless`. An array may be one of tables, to which
headers add. -/
inductive Toml where
  | string (s : String)
  | integer (n : Int)
  | float (text : String)
  | valueless
  | boolean (b : Bool)
  | date (text : String)
  | array (ofTables : Bool) (items : List Toml)
  | table (origin : Toml.Origin) (entries : List (String × Toml))

namespace Toml

abbrev Entries := List (String × Toml)

/-- Why a text is no document. -/
inductive Fault where
  | malformed
  /-- A key has too many parts. -/
  | keyTooLong
  deriving DecidableEq

def find? (key : String) : Entries → Option Toml
  | [] => none
  | (k, v) :: rest => if k = key then some v else find? key rest

mutual

/-- Whether all numbers in a value have values. -/
def isValued : Toml → Bool
  | .valueless => false
  | .array _ items => areValued items
  | .table _ entries => haveValues entries
  | _ => true

/-- Whether all numbers in the items of an array have values. -/
def areValued : List Toml → Bool
  | [] => true
  | v :: rest => isValued v && areValued rest

/-- Whether all numbers in the entries of a table have values. -/
def haveValues : List (String × Toml) → Bool
  | [] => true
  | (_, v) :: rest => isValued v && haveValues rest

end

/-- Gives a key a value, in its place if it is there and at the end otherwise. -/
def assign (key : String) (value : Toml) : Entries → Entries
  | [] => [(key, value)]
  | (k, v) :: rest => if k = key then (k, value) :: rest else (k, v) :: assign key value rest

end Toml

end QueryTemplate
