/-! Decimal numerals and the floats nearest to them. -/

namespace TypedPath.Number

/-- A decimal numeral: `coefficient * 10 ^ exponent`, negated when `negative` holds. -/
structure Numeral where
  negative : Bool
  coefficient : Nat
  exponent : Int
  deriving DecidableEq, Repr

def digitsValue (ds : List Char) : Nat :=
  ds.foldl (fun n d => 10 * n + (d.toNat - '0'.toNat)) 0

/-- The float nearest to the numeral. Exponents far outside the range of floats are decided by the
size of the numeral alone. -/
def Numeral.toFloat (n : Numeral) : Float :=
  let size : Int := (Nat.toDigits 10 n.coefficient).length + n.exponent
  let magnitude : Float :=
    if n.coefficient = 0 || size < -400 then 0
    else if 400 < size then 1 / 0
    else if n.exponent < 0 then Float.ofScientific n.coefficient true (-n.exponent).toNat
    else Float.ofScientific n.coefficient false n.exponent.toNat
  if n.negative then -magnitude else magnitude

def takeSign : List Char → Bool × List Char
  | '-' :: rest => (true, rest)
  | '+' :: rest => (false, rest)
  | cs => (false, cs)

def takeDigits (cs : List Char) : List Char × List Char :=
  (cs.takeWhile Char.isDigit, cs.dropWhile Char.isDigit)

def readExponent? : List Char → Option Int
  | [] => some 0
  | e :: rest =>
    if e = 'e' || e = 'E' then
      let (negative, rest) := takeSign rest
      match takeDigits rest with
      | ([], _) => none
      | (ds, []) => some (if negative then -(digitsValue ds : Int) else digitsValue ds)
      | _ => none
    else none

def Numeral.parse? (text : List Char) : Option Numeral :=
  let (negative, unsigned) := takeSign text
  let (whole, rest) := takeDigits unsigned
  let (fraction, rest) := match rest with
    | '.' :: rest => takeDigits rest
    | rest => ([], rest)
  if whole.isEmpty && fraction.isEmpty then none
  else (readExponent? rest).map fun e =>
    ⟨negative, digitsValue (whole ++ fraction), e - fraction.length⟩

def parseFloat? (text : String) : Option Float :=
  match text with
  | "NaN" => some (0 / 0)
  | "inf" => some (1 / 0)
  | "-inf" => some (-1 / 0)
  | text => (Numeral.parse? text.toList).map Numeral.toFloat

end TypedPath.Number
