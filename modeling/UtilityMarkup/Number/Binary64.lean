/-!
# Binary64 numbers

Binary64 numbers read as exact quantities, and the orders and roundings that follow from the
reading. Everything here is integer arithmetic on the bits of a number.
-/

namespace UtilityMarkup.Number

/-- What the bits of a number denote. A finite number is `significand · 2 ^ exponent`, with a sign
that a zero keeps as well. -/
inductive Reading where
  | nan
  | infinite (negative : Bool)
  | finite (negative : Bool) (significand : Nat) (exponent : Int)
deriving DecidableEq, Repr

/-- The bit that a significand has in front of the 52 that are stored, unless the number is too
small for it. -/
def hiddenBit : Nat := 1 <<< 52

def read (x : Float) : Reading :=
  let bits := x.toBits.toNat
  let negative := bits.testBit 63
  let biased := (bits >>> 52) % 2048
  let fraction := bits % hiddenBit
  if biased = 2047 then
    if fraction = 0 then .infinite negative else .nan
  else if biased = 0 then .finite negative fraction (-1074)
  else .finite negative (hiddenBit + fraction) ((biased : Int) - 1075)

/-! ## Order -/

/-- Rank in the total order of all bit patterns: negative numbers by falling magnitude, then
positive ones by rising magnitude. A negative zero ranks below a positive one, and a NaN beyond the
infinity of its sign. -/
def totalRank (x : Float) : Int :=
  let bits : Int := x.toBits.toNat
  if x.toBits < 0x8000000000000000 then bits else 0x7fffffffffffffff - bits

/-! ## Rounding -/

/-- Rounds `significand · 2 ^ exponent` to an integer, a half upwards. -/
def roundHalfUp (significand : Nat) (exponent : Int) : Nat :=
  let places := (-exponent).toNat
  if places = 0 then significand <<< exponent.toNat
  else (2 * significand + (1 <<< places)) >>> (places + 1)

/-- The nearest integer, a half away from zero. A number without one counts as zero. -/
def nearestInt (x : Float) : Int :=
  match read x with
  | .finite true significand exponent => -(roundHalfUp significand exponent)
  | .finite false significand exponent => roundHalfUp significand exponent
  | .infinite _ | .nan => 0

/-- The nearest integer as a number. Infinities and NaN stay as they are. -/
def round (x : Float) : Float :=
  match read x with
  | .finite .. => Float.ofInt (nearestInt x)
  | .infinite _ | .nan => x

end UtilityMarkup.Number
