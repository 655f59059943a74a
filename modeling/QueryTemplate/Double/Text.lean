import QueryTemplate.Double.Shortest

/-!
# Decimal text of doubles

Two layouts of the shortest decimal: `plainText` is positional, without an exponent at any size,
and `markedText` keeps a fraction or an exponent on every number, so that a reader can tell it
from an integer.
-/

namespace QueryTemplate

namespace Decimal

def text (d : Decimal) : List Char := Nat.toDigits 10 d.digits

/-- The number of digits before the decimal point; negative when zeros follow the point. -/
def pointPosition (d : Decimal) : Int := d.text.length + d.exponent

/-- Positional notation; `mark` follows a number without a fraction. -/
def positional (mark : List Char) (d : Decimal) : List Char :=
  let ds := d.text
  if 0 ≤ d.exponent then ds ++ List.replicate d.exponent.toNat '0' ++ mark
  else
    let places := (-d.exponent).toNat
    if places < ds.length then
      ds.take (ds.length - places) ++ '.' :: ds.drop (ds.length - places)
    else '0' :: '.' :: (List.replicate (places - ds.length) '0' ++ ds)

/-- Notation with one digit before the point and a signed exponent. -/
def scientific (d : Decimal) : List Char :=
  let power := d.pointPosition - 1
  let mantissa := match d.text with
    | first :: second :: rest => first :: '.' :: second :: rest
    | short => short
  mantissa ++ 'e' :: (if power < 0 then '-' else '+') :: Nat.toDigits 10 power.natAbs

end Decimal

namespace Double

def signText (x : Double) : List Char := if x.negative then ['-'] else []

/-- A finite number in positional notation, without an exponent and without a fraction on whole
numbers. The greater of two shortest decimals at the same distance is taken. -/
def plainText (x : Double) : List Char :=
  x.signText ++ (x.shortest .up).positional []

/-- A number as messages show it: like `plainText`, with words for the other numbers. -/
def messageText (x : Double) : String :=
  if x.isNaN then "NaN"
  else if x.isFinite then String.ofList x.plainText
  else String.ofList (x.signText ++ ['i', 'n', 'f'])

/-- A finite number with `.0` on whole numbers: positional from `10 ^ (-5)` up to below
`10 ^ 16` and with an exponent elsewhere. The even one of two shortest decimals at the same
distance is taken. -/
def markedText (x : Double) : List Char :=
  let d := x.shortest .even
  let body :=
    if x.isZero || (decide (-5 < d.pointPosition) && decide (d.pointPosition ≤ 16)) then
      d.positional ['.', '0']
    else d.scientific
  x.signText ++ body

end Double

end QueryTemplate
