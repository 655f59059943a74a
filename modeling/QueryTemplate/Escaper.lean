/-!
# Escapers

An escaper says how a raw text is written inside a literal and how a name is quoted.
-/

namespace QueryTemplate

/-- The two ways in which a raw text enters a statement. -/
structure Escaper where
  /-- The text of a string between single quotes. -/
  escape : String → String
  /-- The text of a name. By default it stands between backticks and is not altered. -/
  quote : String → String := fun name => "`" ++ name ++ "`"

namespace Escaper

/-- One character of a literal with backslash escapes. -/
def backslashChar : Char → List Char
  | '\x00' => ['\\', '0']
  | '\n' => ['\\', 'n']
  | '\r' => ['\\', 'r']
  | '\\' => ['\\', '\\']
  | '\'' => ['\\', '\'']
  | '"' => ['\\', '"']
  | '\x1a' => ['\\', 'Z']
  | c => [c]

/-- A raw text with backslash escapes for quotes, backslashes, NUL, line ends and Ctrl-Z. -/
def backslashed (cs : List Char) : List Char := cs.flatMap backslashChar

/-- The escaper of MySQL literals. -/
def mysql : Escaper where
  escape raw := String.ofList (backslashed raw.toList)

end Escaper

end QueryTemplate
