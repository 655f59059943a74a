import QueryTemplate.Json.Number
import QueryTemplate.Text.Hex

/-!
# Reading JSON

A text is one value with blanks around it. Arrays and objects nest at most 127 deep, and strings
hold neither control characters nor lone surrogates.
-/

namespace QueryTemplate.Json

/-- Reads from the head of a text and gives what is left of it. -/
abbrev Reader (α : Type) := List Char → Option (α × List Char)

/-- Whether a character may stand between tokens. -/
def isBlank (c : Char) : Bool := c == ' ' || c == '\t' || c == '\n' || c == '\r'

def skipBlanks (cs : List Char) : List Char := cs.dropWhile isBlank

def escapedChar? : Char → Option Char
  | '"' => some '"'
  | '\\' => some '\\'
  | '/' => some '/'
  | 'b' => some '\x08'
  | 'f' => some '\x0c'
  | 'n' => some '\n'
  | 'r' => some '\r'
  | 't' => some '\t'
  | _ => none

/-- The character that two surrogates stand for together. -/
def surrogatePair? (high low : Nat) : Option Char :=
  if 0xD800 ≤ high ∧ high < 0xDC00 ∧ 0xDC00 ≤ low ∧ low < 0xE000 then
    Text.charOf? (0x10000 + (high - 0xD800) * 0x400 + (low - 0xDC00))
  else none

/-- The rest of a string after its opening quote. -/
def readString : Reader (List Char)
  | '"' :: rest => some ([], rest)
  | '\\' :: 'u' :: a :: b :: c :: d :: rest =>
    match Text.hexChar? [a, b, c, d], rest with
    | some char, rest => (readString rest).map fun (cs, left) => (char :: cs, left)
    | none, '\\' :: 'u' :: e :: f :: g :: h :: rest => do
      let high ← Text.hexNumber? [a, b, c, d]
      let low ← Text.hexNumber? [e, f, g, h]
      let char ← surrogatePair? high low
      let (cs, left) ← readString rest
      return (char :: cs, left)
    | none, _ => none
  | '\\' :: c :: rest => do
    let char ← escapedChar? c
    let (cs, left) ← readString rest
    return (char :: cs, left)
  | c :: rest =>
    if c.toNat < 0x20 then none
    else (readString rest).map fun (cs, left) => (c :: cs, left)
  | [] => none

/-- Items up to a closing character, with a comma between two of them; the text starts with an
item. Each item takes a character at least, so `fuel` is the length of the text. -/
def readItems {α : Type} (item : Reader α) (close : Char) : (fuel : Nat) → Reader (List α)
  | 0, _ => none
  | fuel + 1, cs => do
    let (x, rest) ← item cs
    match skipBlanks rest with
    | [] => none
    | c :: rest =>
      if c = close then return ([x], rest)
      else if c = ',' then
        let (xs, rest) ← readItems item close fuel (skipBlanks rest)
        return (x :: xs, rest)
      else none

/-- The rest of a sequence of items after its opening character. -/
def readSequence {α : Type} (item : Reader α) (close : Char) : Reader (List α) := fun cs =>
  match skipBlanks cs with
  | [] => none
  | c :: rest => if c = close then some ([], rest) else readItems item close cs.length (c :: rest)

/-- A member of an object. -/
def readMember (value : Reader Json) : Reader (String × Json)
  | '"' :: cs => do
    let (key, rest) ← readString cs
    match skipBlanks rest with
    | ':' :: rest =>
      let (v, rest) ← value (skipBlanks rest)
      return ((String.ofList key, v), rest)
    | _ => none
  | _ => none

/-- A value at the head of a text, with at most `depth` arrays and objects inside each other. -/
def readValue : (depth : Nat) → Reader Json
  | _, [] => none
  | _, 'n' :: 'u' :: 'l' :: 'l' :: rest => some (.null, rest)
  | _, 't' :: 'r' :: 'u' :: 'e' :: rest => some (.bool true, rest)
  | _, 'f' :: 'a' :: 'l' :: 's' :: 'e' :: rest => some (.bool false, rest)
  | _, '"' :: rest => (readString rest).map fun (cs, left) => (.string (String.ofList cs), left)
  | depth + 1, '[' :: rest =>
    (readSequence (readValue depth) ']' rest).map fun (items, left) => (.array items, left)
  | depth + 1, '\x7b' :: rest =>
    (readSequence (readMember (readValue depth)) '\x7d' rest).map
      fun (members, left) => (objectOf members, left)
  | _, cs => (readNumber cs).map fun (n, left) => (.number n, left)

def depthLimit : Nat := 127

def read? (text : String) : Option Json := do
  let (value, rest) ← readValue depthLimit (skipBlanks text.toList)
  if (skipBlanks rest).isEmpty then some value else none

end QueryTemplate.Json
