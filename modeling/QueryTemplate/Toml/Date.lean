import QueryTemplate.Numeral
import QueryTemplate.Toml.Text

/-!
# TOML dates

Days of the calendar, times of day, and both together with or without a time zone.
-/

namespace QueryTemplate.Toml

/-- The number that exactly `count` decimal digits at the head of a text denote, within bounds,
and what follows them. -/
def bounded? (count lo hi : Nat) (cs : List Char) : Option (Nat × List Char) :=
  let ds := cs.take count
  let n := natOfDigits ds
  if ds.length = count && ds.all Char.isDigit && lo ≤ n && n ≤ hi then some (n, cs.drop count)
  else none

def daysOf (year month : Nat) : Nat :=
  if month = 2 then
    if year % 4 = 0 ∧ (year % 100 ≠ 0 ∨ year % 400 = 0) then 29 else 28
  else if month = 4 ∨ month = 6 ∨ month = 9 ∨ month = 11 then 30
  else 31

/-- What follows a day of the calendar. -/
def afterDay? (cs : List Char) : Option (List Char) := do
  let (year, cs) ← bounded? 4 0 9999 cs
  let (month, cs) ← bounded? 2 1 12 (← after? '-' cs)
  let (_, cs) ← bounded? 2 1 (daysOf year month) (← after? '-' cs)
  some cs

/-- What follows a time of day. Seconds may be missing. -/
def afterTime? (cs : List Char) : Option (List Char) := do
  let (_, cs) ← bounded? 2 0 23 cs
  let (_, cs) ← bounded? 2 0 59 (← after? ':' cs)
  match cs with
  | ':' :: cs => do
    let (_, cs) ← bounded? 2 0 60 cs
    match cs with
    | '.' :: cs =>
      if (cs.takeWhile Char.isDigit).isEmpty then none else some (cs.dropWhile Char.isDigit)
    | cs => some cs
  | cs => some cs

/-- Whether a text is the offset of a time zone, or empty. -/
def isZone : List Char → Bool
  | [] => true
  | ['Z'] => true
  | ['z'] => true
  | sign :: cs =>
    (sign == '+' || sign == '-') &&
      (match (do
          let (_, cs) ← bounded? 2 0 23 cs
          let (_, cs) ← bounded? 2 0 59 (← after? ':' cs)
          some cs) with
      | some [] => true
      | _ => false)

/-- Whether a text is a date, a time, or both with an optional zone. -/
def isDate (cs : List Char) : Bool :=
  match afterDay? cs with
  | some [] => true
  | some (mark :: rest) =>
    (mark == 'T' || mark == 't' || mark == ' ') &&
      (match afterTime? rest with
      | some zone => isZone zone
      | none => false)
  | none =>
    match afterTime? cs with
    | some [] => true
    | _ => false

end QueryTemplate.Toml
