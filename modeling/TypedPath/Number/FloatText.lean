import TypedPath.Number.Shortest

/-! How floats are written: in plain digits for users, and in a longer form that always shows that
the number is a float. -/

namespace TypedPath.Number

def digits (n : Nat) : String := String.ofList (Nat.toDigits 10 n)

def zeros (n : Nat) : String := String.ofList (List.replicate n '0')

def ShortDecimal.positional (d : ShortDecimal) : String :=
  let text := digits d.coefficient
  if 0 ≤ d.exponent then text ++ zeros d.exponent.toNat
  else
    let places := (-d.exponent).toNat
    if text.length ≤ places then "0." ++ zeros (places - text.length) ++ text
    else
      let whole := text.length - places
      String.ofList (text.toList.take whole) ++ "." ++ String.ofList (text.toList.drop whole)

def ShortDecimal.magnitude (d : ShortDecimal) : Int :=
  d.exponent + (digits d.coefficient).length - 1

def ShortDecimal.scientific (d : ShortDecimal) : String :=
  let lead := match (digits d.coefficient).toList with
    | [] => ""
    | [c] => c.toString
    | c :: rest => c.toString ++ "." ++ String.ofList rest
  lead ++ "e" ++ toString d.magnitude

def signText (negative : Bool) : String := if negative then "-" else ""

/-- The plain text of a float: never an exponent, and no point without digits behind it. -/
def floatText (x : Float) : String :=
  match Binary64.ofFloat x with
  | .nan => "NaN"
  | .infinite negative => signText negative ++ "inf"
  | .finite negative 0 _ => signText negative ++ "0"
  | .finite negative m e => signText negative ++ (shortest m e).positional

/-- The text of a float in a description: at least one digit after the point, and an exponent from
`10 ^ 16` on and below `10 ^ -4`. -/
def floatDescription (x : Float) : String :=
  match Binary64.ofFloat x with
  | .nan => "NaN"
  | .infinite negative => signText negative ++ "inf"
  | .finite negative 0 _ => signText negative ++ "0.0"
  | .finite negative m e =>
    let d := shortest m e
    signText negative ++
      if d.magnitude < -4 || 16 ≤ d.magnitude then d.scientific
      else if 0 ≤ d.exponent then d.positional ++ ".0"
      else d.positional

end TypedPath.Number
