import UtilityMarkup.Number.Shortest

/-!
# Number text

Numbers as decimal text: the fewest digits that read back, always written out in full, without an
exponent.
-/

namespace UtilityMarkup.Number

def digits (n : Nat) : List Char :=
  Nat.toDigits 10 n

namespace Decimal

def text (d : Decimal) : String :=
  if 0 ≤ d.exponent then .ofList (digits (d.coefficient * Nat.pow 10 d.exponent.toNat))
  else
    let places := (-d.exponent).toNat
    let unit := Nat.pow 10 places
    let fraction := digits (d.coefficient % unit)
    .ofList (digits (d.coefficient / unit) ++
      '.' :: List.replicate (places - fraction.length) '0' ++ fraction)

end Decimal

def signText (negative : Bool) : String :=
  if negative then "-" else ""

def text (x : Float) : String :=
  match read x with
  | .nan => "NaN"
  | .infinite negative => signText negative ++ "inf"
  | .finite negative 0 _ => signText negative ++ "0"
  | .finite negative significand exponent =>
    signText negative ++ (shortest significand exponent).text

/-- The text of a number inside a class, where a zero has no sign. -/
def literal (x : Float) : String :=
  if x == 0 then "0" else text x

end UtilityMarkup.Number
