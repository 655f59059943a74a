import QueryTemplate.Toml.Date
import QueryTemplate.Toml.Number

/-!
# TOML scalars without quotes

Booleans, numbers and dates.
-/

namespace QueryTemplate.Toml

def scalar? (cs : List Char) : Option Toml :=
  if cs = ['t', 'r', 'u', 'e'] then some (.boolean true)
  else if cs = ['f', 'a', 'l', 's', 'e'] then some (.boolean false)
  else match number? cs with
    | some n => some n
    | none => if isDate cs then some (.date (String.ofList cs)) else none

end QueryTemplate.Toml
