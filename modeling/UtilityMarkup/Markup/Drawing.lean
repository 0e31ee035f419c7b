import UtilityMarkup.Text.CaseFold
import UtilityMarkup.Text.Search

/-!
# Drawings

Edits on vector markup: classes are added to its root element, and a color is replaced by the one
that text has around the drawing.
-/

namespace UtilityMarkup.Markup

/-! ## Classes of the root -/

def rootTag : List Char := "<svg".toList

def classOpening : List Char := " class=\"".toList

/-- Adds classes in front of those that the open tag of the root has, or as an attribute of their
own. The open tag ends with the first `>`. -/
def insertClasses (classes markup : List Char) : List Char :=
  match Text.splitAt? rootTag markup with
  | none => markup
  | some (before, after) =>
    match Text.splitAt? classOpening (after.takeWhile (· ≠ '>')) with
    | none => before ++ rootTag ++ classOpening ++ classes ++ '"' :: after
    | some (attributes, _) =>
      let value := after.drop (attributes.length + classOpening.length)
      before ++ rootTag ++ attributes ++ classOpening ++ classes ++
        (if value.head? = some '"' then value else ' ' :: value)

def injectClasses (markup classes : String) : String :=
  if classes = "" then markup else .ofList (insertClasses classes.toList markup.toList)

/-! ## Color of the text around -/

def currentColor : List Char := "currentColor".toList

/-- The front of a text that takes up exactly the given number of bytes, if there is one. -/
def takeBytes? : Nat → List Char → Option (List Char)
  | 0, _ => some []
  | _ + 1, [] => none
  | size + 1, c :: rest =>
    if c.utf8Size ≤ size + 1 then (takeBytes? (size + 1 - c.utf8Size) rest).map (c :: ·) else none

/-- The part `#rrggbb` of a hex that may go on with an alpha byte. -/
def withoutAlpha (hex : List Char) : List Char :=
  (takeBytes? 7 hex).getD hex

/-- Replaces what agrees with `pattern` up to case, from left to right. The first `skip` characters
belong to a place that has been replaced already. -/
def replaceFrom (pattern : List Char) : (skip : Nat) → List Char → List Char
  | _, [] => []
  | skip + 1, _ :: rest => replaceFrom pattern skip rest
  | 0, c :: rest =>
    if (Text.dropFolded? pattern (c :: rest)).isSome then
      currentColor ++ replaceFrom pattern (pattern.length - 1) rest
    else c :: replaceFrom pattern 0 rest

/-- Replaces a color wherever its hex occurs, in any case. An empty hex occurs in front of every
character and at the end. -/
def replaceHex (hex markup : List Char) : List Char :=
  match withoutAlpha hex with
  | [] => markup.flatMap (fun c => currentColor ++ [c]) ++ currentColor
  | pattern => replaceFrom pattern 0 markup

def useCurrentColor (markup hex : String) : String :=
  .ofList (replaceHex hex.toList markup.toList)

end UtilityMarkup.Markup
