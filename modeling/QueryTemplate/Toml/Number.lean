import QueryTemplate.Toml.Basic
import QueryTemplate.Numeral
import QueryTemplate.Text.Hex

/-!
# TOML numbers

Integers in four bases, and floats. Underscores group the digits. A number may be well written and
yet have no value: 128 bits do not hold it, it is larger than every float, or no digit follows its
base.
-/

namespace QueryTemplate.Toml

/-- Whether a character is a digit of a base up to sixteen. -/
def isDigitOf (base : Nat) (c : Char) : Bool :=
  match Text.hexDigit? c with
  | some d => decide (d < base)
  | none => false

/-- A text without its underscores, each of which stands between two digits of a base. -/
def ungrouped? (base : Nat) : List Char → Option (List Char)
  | [] => some []
  | c :: '_' :: d :: rest =>
    if isDigitOf base c && isDigitOf base d then (ungrouped? base (d :: rest)).map (c :: ·)
    else none
  | c :: rest => if c = '_' then none else (ungrouped? base rest).map (c :: ·)

def isDigits (base : Nat) (ds : List Char) : Bool := !ds.isEmpty && ds.all (isDigitOf base)

/-- The number that digits of a base denote. -/
def inBase (base : Nat) (ds : List Char) : Nat :=
  ds.foldl (fun n d => base * n + (Text.hexDigit? d).getD 0) 0

/-- Whether an integer can be kept in 128 bits, with a sign or without. -/
def fits (n : Int) : Bool :=
  decide (-0x80000000000000000000000000000000 ≤ n) &&
    decide (n < 0x100000000000000000000000000000000)

/-- The integer with a sign and digits of a base. -/
def integerOf (base : Nat) (sign : Option Sign) (ds : List Char) : Toml :=
  let n : Int := inBase base ds
  let value := if sign = some .minus then -n else n
  if isDigits base ds && fits value then .integer value else .valueless

/-- An integer with the mark of its base, after the mark. -/
def based? (base : Nat) (cs : List Char) : Option Toml :=
  match ungrouped? base cs with
  | some ds => if ds.all (isDigitOf base) then some (integerOf base none ds) else none
  | none => none

/-- A decimal integer after its sign, without a needless zero at its head and without spaces. Its
underscores stand between hexadecimal digits. With an underscore, what follows it is part of the
integer, which has no value unless all is decimal digits. -/
def decimal? (sign : Option Sign) (cs : List Char) : Option Toml :=
  let isPlain :=
    match cs, cs.dropWhile Char.isDigit with
    | ['0'], _ => true
    | d :: _, [] => d != '0'
    | d :: _, c :: _ => d.isDigit && d != '0' && c == '_'
    | [], _ => false
  if isPlain && !cs.contains ' ' then (ungrouped? 16 cs).map (integerOf 10 sign) else none

/-- The numeral of a float after its sign: digits without a needless zero at their head, with a
fraction, an exponent or both. -/
def numeral? (sign : Option Sign) (cs : List Char) : Option Numeral := do
  let isMark (c : Char) : Bool := c == 'e' || c == 'E'
  let digits? (ds : List Char) : Option (List Char) := if isDigits 10 ds then some ds else none
  let text ← ungrouped? 10 cs
  let mantissa := text.takeWhile (!isMark ·)
  let whole ← digits? (mantissa.takeWhile (· != '.'))
  let fraction ← match mantissa.dropWhile (· != '.') with
    | [] => some none
    | _ :: ds => (digits? ds).map some
  let exponent ← match text.dropWhile (!isMark ·) with
    | [] => some none
    | mark :: tail => (digits? (Sign.leading tail).2).map (some ⟨mark, (Sign.leading tail).1, ·⟩)
  if whole.length = 1 || whole.head? != some '0' then
    some ⟨sign, whole, fraction, exponent⟩
  else none

/-- The float of a numeral. -/
def floatOf (n : Numeral) : Toml :=
  if n.toDouble.isFinite then .float (String.ofList n.text) else .valueless

def number? (cs : List Char) : Option Toml :=
  match Sign.leading cs with
  | (_, ['i', 'n', 'f']) => some (.float (String.ofList cs))
  | (_, ['n', 'a', 'n']) => some (.float (String.ofList cs))
  | (none, '0' :: 'x' :: ds) => based? 16 ds
  | (none, '0' :: 'o' :: ds) => based? 8 ds
  | (none, '0' :: 'b' :: ds) => based? 2 ds
  | (sign, body) =>
    if body.any fun c => c == '.' || c == 'e' || c == 'E' then (numeral? sign body).map floatOf
    else decimal? sign body

end QueryTemplate.Toml
