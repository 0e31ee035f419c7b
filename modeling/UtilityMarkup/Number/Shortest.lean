import UtilityMarkup.Number.Binary64

/-!
# Shortest decimals

The shortest decimal that reads back as a given binary64 number. The reals that round to the
number form an interval around it; the decimal is taken from the coarsest grid of powers of ten
with a point in that interval, and is the point nearest to the number.
-/

namespace UtilityMarkup.Number

/-- The number `coefficient · 10 ^ exponent`. -/
structure Decimal where
  coefficient : Nat
  exponent : Int
deriving DecidableEq, Repr

/-- A number with the interval that rounds to it, all in units of `2 ^ exponent`. The ends belong
to the interval when it is `closed`. -/
structure Spread where
  lower : Nat
  value : Nat
  upper : Nat
  exponent : Int
  closed : Bool
deriving DecidableEq, Repr

namespace Spread

/-- The neighbours of a number are one unit of its significand away, and the one below a power of
two only half of that. A boundary halfway to a neighbour belongs to the even significand. -/
def around (significand : Nat) (exponent : Int) : Spread where
  lower := 4 * significand - (if significand = hiddenBit ∧ -1074 < exponent then 1 else 2)
  value := 4 * significand
  upper := 4 * significand + 2
  exponent := exponent - 2
  closed := significand % 2 == 0

/-- The length of one step of the grid of multiples of `10 ^ e`, on the scale of `onGrid`. -/
def step (s : Spread) (e : Int) : Nat :=
  (Nat.pow 10 e.toNat) <<< (-s.exponent).toNat

/-- A quantity of the spread on the integer scale on which `step` measures the grid. -/
def onGrid (s : Spread) (e : Int) (n : Nat) : Nat :=
  (n * Nat.pow 10 (-e).toNat) <<< s.exponent.toNat

def below (s : Spread) (e : Int) : Nat :=
  s.onGrid e s.value / s.step e

def contains (s : Spread) (e : Int) (point : Nat) : Bool :=
  let place := point * s.step e
  if s.closed then s.onGrid e s.lower ≤ place && place ≤ s.onGrid e s.upper
  else s.onGrid e s.lower < place && place < s.onGrid e s.upper

/-- The point of the grid in the interval that is nearest to the number. Only the two neighbours of
the number can be it; of two equally near ones the larger is taken. -/
def nearest? (s : Spread) (e : Int) : Option Nat :=
  let point := s.below e
  match s.contains e point, s.contains e (point + 1) with
  | true, true =>
    if 2 * (s.onGrid e s.value - point * s.step e) < s.step e then some point
    else some (point + 1)
  | true, false => some point
  | false, true => some (point + 1)
  | false, false => none

/-- Tries the grids from `10 ^ (finest + n)` down. The finest grid is meant to hold the number. -/
def coarsest (s : Spread) (finest : Int) : Nat → Decimal
  | 0 => ⟨s.below finest, finest⟩
  | n + 1 =>
    match s.nearest? (finest + (n + 1)) with
    | some point => ⟨point, finest + (n + 1)⟩
    | none => s.coarsest finest n

end Spread

/-- An exponent whose power of ten exceeds the number. -/
def ceilingExponent (significand : Nat) (exponent : Int) : Nat :=
  ((significand <<< exponent.toNat) >>> (-exponent).toNat).log2 + 1

def shortest (significand : Nat) (exponent : Int) : Decimal :=
  let finest := min 0 exponent
  (Spread.around significand exponent).coarsest finest
    (ceilingExponent significand exponent - finest).toNat

end UtilityMarkup.Number
