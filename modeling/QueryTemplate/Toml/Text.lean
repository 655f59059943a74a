import QueryTemplate.Text.Hex

/-!
# TOML text

Which characters a document may hold, and the characters that the body of a string stands for: of
one with escapes or without, on one line or long.
-/

namespace QueryTemplate.Toml

/-- Whether a character may stand in a comment or, quotes and backslashes apart, in a string:
a tab, or no control character. -/
def isPlain (c : Char) : Bool := c == '\t' || (0x20 ≤ c.toNat && c.toNat != 0x7F)

def isSpace (c : Char) : Bool := c == ' ' || c == '\t'

def skipSpaces (cs : List Char) : List Char := cs.dropWhile isSpace

def after? (c : Char) : List Char → Option (List Char)
  | d :: rest => if d = c then some rest else none
  | [] => none

def escapedChar? : Char → Option Char
  | 'b' => some '\x08'
  | 't' => some '\t'
  | 'n' => some '\n'
  | 'f' => some '\x0c'
  | 'r' => some '\r'
  | 'e' => some '\x1b'
  | '"' => some '"'
  | '\\' => some '\\'
  | _ => none

/-- The number of hexadecimal digits after the letter of an escape. -/
def escapeDigits? : Char → Option Nat
  | 'x' => some 2
  | 'u' => some 4
  | 'U' => some 8
  | _ => none

/-- The character of an escape after its backslash, and what follows it. -/
def readEscape : List Char → Option (Char × List Char)
  | [] => none
  | c :: rest =>
    match escapeDigits? c with
    | none => (escapedChar? c).map fun char => (char, rest)
    | some count =>
      if (rest.take count).length = count then
        (Text.hexChar? (rest.take count)).map fun char => (char, rest.drop count)
      else none

/-- The text after one line end at its head, if there is one. -/
def dropLineEnd : List Char → List Char
  | '\n' :: rest => rest
  | '\r' :: '\n' :: rest => rest
  | cs => cs

def skipLines : List Char → List Char
  | '\r' :: '\n' :: cs => skipLines cs
  | c :: cs => if isSpace c || c == '\n' then skipLines cs else c :: cs
  | [] => []

/-- The text after a backslash at the end of a line, which swallows all spaces and line ends up to
the next character. -/
def afterContinuation? (cs : List Char) : Option (List Char) :=
  let rest := skipSpaces cs
  if (dropLineEnd rest).length < rest.length then some (skipLines rest) else none

/-- Whether a character may stand in a string before what follows it. In a long string lines may
end. -/
def mayStand (long : Bool) (c : Char) (rest : List Char) : Bool :=
  isPlain c || (long && (c == '\n' || (c == '\r' && rest.head? == some '\n')))

/-- The characters of a string whose body is taken as it stands. -/
def verbatim? (long : Bool) : List Char → Option (List Char)
  | [] => some []
  | c :: rest => if mayStand long c rest then (verbatim? long rest).map (c :: ·) else none

/-- The characters of a string in whose body a backslash escapes. Each step takes a character at
least, so `fuel` is the length of the body. -/
def unescaped? (long : Bool) : (fuel : Nat) → List Char → Option (List Char)
  | _, [] => some []
  | 0, _ => none
  | fuel + 1, '\\' :: rest =>
    match if long then afterContinuation? rest else none with
    | some rest => unescaped? long fuel rest
    | none => do
      let (char, rest) ← readEscape rest
      (unescaped? long fuel rest).map (char :: ·)
  | fuel + 1, c :: rest =>
    if mayStand long c rest then (unescaped? long fuel rest).map (c :: ·) else none

/-- The characters of a string with a given body. A line end right after the opening quotes of a
long string is not part of it. -/
def stringOfBody? (escapes long : Bool) (body : List Char) : Option (List Char) :=
  let body := if long then dropLineEnd body else body
  if escapes then unescaped? long body.length body else verbatim? long body

end QueryTemplate.Toml
