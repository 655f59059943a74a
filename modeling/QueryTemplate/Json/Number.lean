import QueryTemplate.Json.Basic
import QueryTemplate.Numeral

/-!
# Reading JSON numbers

A number without fraction and exponent is exact when its digits stay below `2 ^ 64`. Any other
number is read with a significand of 64 bits and then scaled by a power of ten, each in double
arithmetic, so that its last bit can differ from that of the nearest double.
-/

namespace QueryTemplate.Json

/-- The bound of a significand, `2 ^ 64`. -/
def significandBound : Nat := 0x10000000000000000

/-- Takes digits into a significand while it stays below `2 ^ 64`, and gives the digits left. -/
def takeDigits : (significand : Nat) → List Char → Nat × List Char
  | n, [] => (n, [])
  | n, d :: ds =>
    let next := 10 * n + (d.toNat - '0'.toNat)
    if next < significandBound then takeDigits next ds else (n, d :: ds)

/-- A double times `10 ^ e`. Within 308 places one multiplication or division does it; a number
too small for that is divided by `10 ^ 308` first, at most `steps` times. A product beyond the
range of finite numbers is refused. -/
def scaleByTen : (steps : Nat) → Double → (e : Int) → Option Double
  | steps, x, e =>
    if e.natAbs ≤ 308 then
      if 0 ≤ e then
        let y := x.mul (Double.ofDecimal false 1 e)
        if y.isFinite then some y else none
      else some (x.div (Double.ofDecimal false 1 (-e)))
    else if x.isZero then some x
    else if 0 ≤ e then none
    else match steps with
      | 0 => none
      | steps + 1 => scaleByTen steps (x.div (Double.ofDecimal false 1 308)) (e + 308)

/-- The number with a significand below `2 ^ 64`, scaled by `10 ^ e`: two divisions by
`10 ^ 308` take every such significand to zero. -/
def realOf? (isNegative : Bool) (significand : Nat) (e : Int) : Option Number := do
  let x ← scaleByTen 2 (Double.ofNat significand) e
  Number.real? (if isNegative then x.neg else x)

/-- The number with the given digits and neither fraction nor exponent. Negative zero and
integers below `-2 ^ 63` are doubles. -/
def integerOf? (isNegative : Bool) (n : Nat) : Option Number :=
  if !isNegative then some (.natural (UInt64.ofNat n))
  else if 0 < n ∧ n ≤ Double.int64Span then some (.negative (Int64.ofInt (-n)))
  else Number.real? (Double.ofNat n).neg

/-- The fraction after the digits before the point: its digits and what follows them. A point
needs a digit after it. -/
def fraction? : List Char → Option (List Char × List Char)
  | '.' :: cs =>
    let digits := cs.takeWhile Char.isDigit
    if digits.isEmpty then none else some (digits, cs.dropWhile Char.isDigit)
  | cs => some ([], cs)

/-- The exponent after the digits: its value, if it is there, and what follows it. A mark needs a
digit after it. -/
def exponent? (cs : List Char) : Option (Option Int × List Char) :=
  match Exponent.leading? cs with
  | some e => some (some e.value, cs.drop e.text.length)
  | none => if cs.head? = some 'e' ∨ cs.head? = some 'E' then none else some (none, cs)

/-- Whether digits before the point have no needless zero at their head, and are there. -/
def isWhole : List Char → Bool
  | [] => false
  | ['0'] => true
  | d :: _ => d != '0'

def readNumber (cs : List Char) : Option (Number × List Char) := do
  let isNegative := cs.head? == some '-'
  let unsigned := if isNegative then cs.drop 1 else cs
  let whole := unsigned.takeWhile Char.isDigit
  if !isWhole whole then none
  let (fraction, rest) ← fraction? (unsigned.dropWhile Char.isDigit)
  let (exponent, rest) ← exponent? rest
  let (significand, skipped) := takeDigits 0 whole
  if fraction.isEmpty && exponent.isNone && skipped.isEmpty then
    return (← integerOf? isNegative significand, rest)
  let (significand, dropped) := takeDigits significand fraction
  let places : Int := skipped.length - (fraction.length - dropped.length : Nat)
  return (← realOf? isNegative significand (places + exponent.getD 0), rest)

end QueryTemplate.Json
