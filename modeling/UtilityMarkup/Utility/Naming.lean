import UtilityMarkup.Document.Color
import UtilityMarkup.Number.Literal
import UtilityMarkup.Settings.Basic

/-!
# Naming

Utility classes for numbers and colors: the name of the value where it has one, its literal text
where it has none. A class has a stem, which says what the value is for; without a stem only the
value is written.
-/

namespace UtilityMarkup

/-- What a number measures. -/
inductive Quantity where
  | spacing
  | textSize
  | textWeight
  | radius
  | color
  | border
  | rotation
deriving DecidableEq, Repr

def stemmed : Option String → String → String
  | some stem, value => stem ++ "-" ++ value
  | none, value => value

namespace Vocabulary

/-- The scale that names a quantity. Borders and rotations are written as they are. -/
def scale? (vocabulary : Vocabulary) : Quantity → Option Scale
  | .spacing => some vocabulary.spacing
  | .textSize => some vocabulary.textSize
  | .textWeight => some vocabulary.textWeight
  | .radius => some vocabulary.radius
  | .color | .border | .rotation => none

/-- The class of a number, empty for zero. A scale names magnitudes, and the sign of a named number
stands in front of the stem; it is lost where there is no stem. -/
def number (vocabulary : Vocabulary) (quantity : Quantity) (stem : Option String)
    (value : Float) : String :=
  if value == 0 then ""
  else
    let sign := if value < 0 then "-" else ""
    match vocabulary.scale? quantity, stem with
    | none, some stem => sign ++ stem ++ "-" ++ Number.literal value.abs
    | none, none => Number.literal value
    | some scale, stem =>
      match scale.find? value.abs, stem with
      | some name, some stem => sign ++ stem ++ "-" ++ name
      | some name, none => name
      | none, some stem => stem ++ "-[" ++ Number.literal value ++ "px]"
      | none, none => Number.literal value

end Vocabulary

/-- The name of a variable as part of a class: `brand/primary 500` is `brand-primary-500`. -/
def variableToken (name : String) : String :=
  .ofList ((Text.trimChars name.toList).map fun c => if c = '/' || Text.isBlank c then '-' else c)

namespace Settings

/-- The class of a color. A variable of that color gives it its name. A named color carries its
alpha as a percentage, another one as part of its hex. -/
def color (settings : Settings) (color : Color) (variableName stem : Option String) : String :=
  match (variableName.map variableToken).or (settings.colorName? color.baseHex) with
  | some name =>
    stemmed stem name ++ if color.isTranslucent then "/" ++ toString color.percent else ""
  | none =>
    match stem with
    | some stem => stem ++ "-[" ++ color.hex ++ "]"
    | none => color.hex

end Settings

end UtilityMarkup
