/-!
# Search

Finding one text inside another, by splitting at its first occurrence.
-/

namespace UtilityMarkup.Text

/-- What comes before and after the first occurrence of `pattern`. -/
def splitAt? (pattern : List Char) : List Char → Option (List Char × List Char)
  | [] => if pattern = [] then some ([], []) else none
  | c :: rest =>
    if pattern <+: c :: rest then some ([], (c :: rest).drop pattern.length)
    else (splitAt? pattern rest).map fun (before, after) => (c :: before, after)

def occursIn (pattern text : String) : Bool :=
  (splitAt? pattern.toList text.toList).isSome

end UtilityMarkup.Text
