/-!
# Placeholders

A placeholder is a question mark, alone or with a suffix that says how its value is written.
-/

namespace QueryTemplate

inductive Placeholder where
  /-- Any scalar, written by its own shape. -/
  | generic
  /-- A scalar as an integer. -/
  | int
  /-- A scalar as a number. -/
  | float
  /-- The items of a list, or the assignments of a map. -/
  | array
  /-- One name or a list of names. -/
  | identifier
  deriving DecidableEq

namespace Placeholder

/-- The form that a character after the question mark selects. -/
def ofSuffix? : Char → Option Placeholder
  | 'd' => some int
  | 'f' => some float
  | 'a' => some array
  | '#' => some identifier
  | _ => none

def text : Placeholder → String
  | generic => "?"
  | int => "?d"
  | float => "?f"
  | array => "?a"
  | identifier => "?#"

/-- The placeholder as messages show it, between backticks. -/
def messageText (p : Placeholder) : String := "`" ++ p.text ++ "`"

end Placeholder

end QueryTemplate
