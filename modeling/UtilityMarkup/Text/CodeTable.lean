/-!
# Tables over code points

Compact tables over code points: spans of a property, and runs of a mapping that shifts every
code point on a regular grid by one distance.
-/

namespace UtilityMarkup.Text

/-- First and last code point of a stretch that shares a property. -/
abbrev CodeSpan := Nat × Nat

def inSpans (spans : List CodeSpan) (c : Char) : Bool :=
  spans.any fun (first, last) => first ≤ c.toNat && c.toNat ≤ last

/-- The code points `first, first + step, …, last`, each mapped `shift` away. -/
structure CodeRun where
  first : Nat
  last : Nat
  step : Nat
  shift : Int
deriving DecidableEq, Repr

namespace CodeRun

def covers (run : CodeRun) (n : Nat) : Bool :=
  run.first ≤ n && n ≤ run.last && (n - run.first) % run.step == 0

end CodeRun

/-- Maps a character by the run that covers it; one that no run covers maps to itself. -/
def shiftBy (runs : List CodeRun) (c : Char) : Char :=
  match runs.find? (·.covers c.toNat) with
  | some run => Char.ofNat (c.toNat + run.shift).toNat
  | none => c

end UtilityMarkup.Text
