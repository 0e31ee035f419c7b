import UtilityMarkup.Text.CaseFold.Table

/-!
# Case folding

Comparison without regard to case: two characters agree when they fold to the same character.
-/

namespace UtilityMarkup.Text

def foldCase (c : Char) : Char :=
  shiftBy caseFoldRuns c

def agreesFolded (a b : Char) : Bool :=
  foldCase a == foldCase b

/-- What follows `pattern` at the front of `text`, when the front agrees with it up to case. -/
def dropFolded? : List Char → List Char → Option (List Char)
  | [], text => some text
  | _ :: _, [] => none
  | p :: pattern, c :: text => if agreesFolded p c then dropFolded? pattern text else none

end UtilityMarkup.Text
