/-!
# References to variables

A text may refer to variables of the environment by `${name}`. References are replaced in one
pass from left to right, and inserted text is not read again.
-/

namespace QueryTemplate

abbrev Environment := String → Option String

namespace Expansion

/-- Why a reference has no text. -/
inductive Error where
  | unterminated (name : String)
  | empty
  | unset (name : String)
  deriving DecidableEq

def Error.message : Error → String
  | unterminated name => "unterminated env var reference: $\x7b" ++ name ++ "\x7d"
  | empty => "invalid env var reference: $\x7b\x7d"
  | unset name => "missing env var for config expansion: " ++ name

def lookup (env : Environment) (name : List Char) : Except Error (List Char) :=
  if name.isEmpty then .error .empty
  else match env (String.ofList name) with
    | some value => .ok value.toList
    | none => .error (.unset (String.ofList name))

/-- Expands the rest of a text. Inside a reference, `name` holds the characters of its name read
so far, the last one first. -/
def expandFrom (env : Environment) :
    (name : Option (List Char)) → List Char → Except Error (List Char)
  | none, [] => .ok []
  | none, '$' :: '\x7b' :: cs => expandFrom env (some []) cs
  | none, c :: cs => (expandFrom env none cs).map (c :: ·)
  | some name, [] => .error (.unterminated (String.ofList name.reverse))
  | some name, c :: cs =>
    if c = '\x7d' then do
      let value ← lookup env name.reverse
      let rest ← expandFrom env none cs
      .ok (value ++ rest)
    else expandFrom env (some (c :: name)) cs

/-- A text with its references replaced, or the first reference that has no text. -/
def expand (env : Environment) (text : String) : Except Error String :=
  (expandFrom env none text.toList).map String.ofList

/-- The names of the references of a text, in their order. -/
def namesFrom : (name : Option (List Char)) → List Char → List String
  | none, '$' :: '\x7b' :: cs => namesFrom (some []) cs
  | none, _ :: cs => namesFrom none cs
  | some name, c :: cs =>
    if c = '\x7d' then String.ofList name.reverse :: namesFrom none cs
    else namesFrom (some (c :: name)) cs
  | _, [] => []

def names (text : String) : List String := namesFrom none text.toList

end Expansion

end QueryTemplate
