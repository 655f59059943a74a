import QueryTemplate.Double.Round
import QueryTemplate.Text.Blank

/-!
# Numerals

A numeral is an optional sign, digits with an optional fraction, and an optional exponent; at
least one digit stands before the exponent. `Numeral.leading?` reads the longest numeral at the
head of a text, and a number is taken from it.
-/

namespace QueryTemplate

inductive Sign where
  | plus
  | minus
  deriving DecidableEq

namespace Sign

def char : Sign → Char
  | plus => '+'
  | minus => '-'

/-- The sign at the head of a text, and what follows it. -/
def leading : List Char → Option Sign × List Char
  | '+' :: cs => (some plus, cs)
  | '-' :: cs => (some minus, cs)
  | cs => (none, cs)

def text (sign : Option Sign) : List Char := (sign.map char).toList

end Sign

/-- The number that decimal digits denote. -/
def natOfDigits (ds : List Char) : Nat :=
  ds.foldl (fun n d => 10 * n + (d.toNat - '0'.toNat)) 0

structure Exponent where
  mark : Char
  sign : Option Sign
  digits : List Char
  deriving DecidableEq

namespace Exponent

/-- The exponent at the head of a text, if it has a digit. -/
def leading? : List Char → Option Exponent
  | [] => none
  | mark :: cs =>
    if mark = 'e' ∨ mark = 'E' then
      let (sign, rest) := Sign.leading cs
      let digits := rest.takeWhile Char.isDigit
      if digits.isEmpty then none else some ⟨mark, sign, digits⟩
    else none

def value (e : Exponent) : Int :=
  if e.sign = some .minus then -(natOfDigits e.digits : Int) else natOfDigits e.digits

def text (e : Exponent) : List Char := e.mark :: (Sign.text e.sign ++ e.digits)

end Exponent

/-- A numeral: `fraction` holds the digits after the point, if there is a point. -/
structure Numeral where
  sign : Option Sign
  whole : List Char
  fraction : Option (List Char)
  exponent : Option Exponent
  deriving DecidableEq

namespace Numeral

/-- The digits after the decimal point at the head of a text, and what follows them. A point
belongs to a numeral only if a digit stands beside it. -/
def leadingFraction (hasWhole : Bool) : List Char → Option (List Char) × List Char
  | '.' :: cs =>
    let digits := cs.takeWhile Char.isDigit
    if hasWhole || !digits.isEmpty then (some digits, cs.dropWhile Char.isDigit)
    else (none, '.' :: cs)
  | cs => (none, cs)

/-- The longest numeral at the head of a text. -/
def leading? (cs : List Char) : Option Numeral :=
  let (sign, unsigned) := Sign.leading cs
  let whole := unsigned.takeWhile Char.isDigit
  let (fraction, rest) := leadingFraction (!whole.isEmpty) (unsigned.dropWhile Char.isDigit)
  if whole.isEmpty && fraction.isNone then none
  else some ⟨sign, whole, fraction, Exponent.leading? rest⟩

/-- The longest numeral of a text after its leading blanks. -/
def ofText? (s : String) : Option Numeral := leading? (Text.trimLeft s.toList)

/-- The text that a numeral is read from. -/
def text (n : Numeral) : List Char :=
  Sign.text n.sign ++ n.whole ++ (n.fraction.map ('.' :: ·)).getD [] ++
    (n.exponent.map Exponent.text).getD []

def isIntegral (n : Numeral) : Bool := n.fraction.isNone && n.exponent.isNone

def isNegative (n : Numeral) : Bool := n.sign == some .minus

/-- The digits on both sides of the point, as one number. -/
def mantissa (n : Numeral) : Nat := natOfDigits (n.whole ++ n.fraction.getD [])

/-- The power of ten by which the mantissa is multiplied. -/
def scale (n : Numeral) : Int :=
  (n.exponent.map Exponent.value).getD 0 - (n.fraction.getD []).length

def toInt (n : Numeral) : Int :=
  if n.isNegative then -(n.mantissa : Int) else n.mantissa

def toDouble (n : Numeral) : Double := Double.ofDecimal n.isNegative n.mantissa n.scale

end Numeral

end QueryTemplate
