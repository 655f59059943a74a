import QueryTemplate.Json.Basic
import QueryTemplate.Double.Text

/-!
# Writing JSON

The compact form of a value: no blanks, members in their order, and only quotes, backslashes and
control characters escaped.
-/

namespace QueryTemplate.Json

def writtenChar (c : Char) : List Char :=
  match c with
  | '"' => ['\\', '"']
  | '\\' => ['\\', '\\']
  | '\x08' => ['\\', 'b']
  | '\x0c' => ['\\', 'f']
  | '\n' => ['\\', 'n']
  | '\r' => ['\\', 'r']
  | '\t' => ['\\', 't']
  | c =>
    if c.toNat < 0x20 then
      ['\\', 'u', '0', '0', Nat.digitChar (c.toNat / 16), Nat.digitChar (c.toNat % 16)]
    else [c]

def writtenString (s : String) : String :=
  String.ofList ('"' :: (s.toList.flatMap writtenChar ++ ['"']))

/-- Integers in decimal, and doubles with a fraction or an exponent. -/
def Number.written : Number → String
  | natural n => toString n.toNat
  | negative n => toString n.toInt
  | real x _ => String.ofList x.markedText

mutual

def written : Json → String
  | null => "null"
  | bool b => if b then "true" else "false"
  | number n => n.written
  | string s => writtenString s
  | array items => "[" ++ String.intercalate "," (writtenItems items) ++ "]"
  | object members => "\x7b" ++ String.intercalate "," (writtenMembers members) ++ "\x7d"

def writtenItems : List Json → List String
  | [] => []
  | j :: rest => j.written :: writtenItems rest

def writtenMembers : List (String × Json) → List String
  | [] => []
  | (key, j) :: rest => (writtenString key ++ ":" ++ j.written) :: writtenMembers rest

end

end QueryTemplate.Json
