import UtilityMarkup.Text.LowerCase.Cased
import UtilityMarkup.Text.LowerCase.Table

/-!
# Lower case

Lower case of a whole text. Every character has its own lower case except the capital sigma, whose
form depends on whether it ends a word.
-/

namespace UtilityMarkup.Text

/-- The next character that is not skipped by casing is a cased letter. -/
def reachesCased (text : List Char) : Bool :=
  ((text.dropWhile isCaseIgnorable).head?.map isCased).getD false

/-- A sigma ends a word when a cased letter comes before it and none after it. `before` is the text
in front of it, nearest character first. -/
def endsWord (before after : List Char) : Bool :=
  reachesCased before && !reachesCased after

def lowerChar (c : Char) : List Char :=
  if c == 'İ' then ['i', '\u0307'] else [shiftBy lowerCaseRuns c]

def lowerFrom (before : List Char) : List Char → List Char
  | [] => []
  | c :: after =>
    (if c == 'Σ' then [if endsWord before after then 'ς' else 'σ'] else lowerChar c) ++
      lowerFrom (c :: before) after

def lowerCase (text : String) : String :=
  .ofList (lowerFrom [] text.toList)

end UtilityMarkup.Text
