import UtilityMarkup.Utility.Backdrop

/-!
# Typography

The classes of text runs, and those of the text layer around them. A layer with several runs has
the typography on which all of them agree.
-/

namespace UtilityMarkup

namespace Length

/-- The class of a length. An automatic one and zero need none. -/
def className (stem : String) : Length → String
  | auto => ""
  | pixels amount => literalClass amount "px"
  | percent amount => literalClass amount "%"
where
  literalClass (amount : Float) (unit : String) : String :=
    if amount == 0 then "" else stem ++ "-[" ++ Number.literal amount ++ unit ++ "]"

end Length

namespace Font

/-- The class of the family, in which an underscore stands for a blank. -/
def className (font : Font) : String :=
  let family := (Text.trimChars font.family.toList).map fun c => if Text.isBlank c then '_' else c
  if family = [] then "" else "font-[" ++ .ofList family ++ "]"

end Font

namespace LetterCase

def className : LetterCase → String
  | upper => "uppercase"
  | lower => "lowercase"
  | title => "capitalize"
  | asTyped | smallCaps | forcedSmallCaps => ""

end LetterCase

namespace Decoration

def className : Decoration → String
  | underline => "underline"
  | strikethrough => "line-through"
  | none => ""

end Decoration

namespace DecorationStyle

def className : DecorationStyle → String
  | solid => "decoration-solid"
  | wavy => "decoration-wavy"
  | dotted => "decoration-dotted"

end DecorationStyle

namespace ListStyle

def className : ListStyle → String
  | ordered => "list-decimal"
  | unordered => "list-disc"
  | none => ""

end ListStyle

namespace Settings

def typography (settings : Settings) (run : TextRun) : Classes :=
  let number := settings.vocabulary.number
  .ofList [
    run.font.className,
    if run.font.isItalic then "italic" else "",
    number .textSize (some "text") run.size,
    number .textWeight (some "font") run.weight,
    run.letterSpacing.className "tracking",
    run.lineHeight.className "leading",
    run.letterCase.className,
    run.decoration.className,
    (run.decorationColor?.map (settings.color · none (some "decoration"))).getD "",
    (run.decorationStyle?.map DecorationStyle.className).getD "",
    run.decorationThickness.className "decoration",
    number .spacing (some "indent") run.indent,
    run.listStyle.className]

end Settings

namespace Classes

/-- The entries that all the lists have, in the order of the first. -/
def shared : List Classes → Classes
  | [] => .empty
  | first :: others =>
    .ofList (first.entries.filter fun entry => others.all (·.entries.contains entry))

end Classes

/-- The fills on which all runs agree, when a text layer has none of its own. -/
def Layer.textFills (layer : Layer) : List Paint :=
  if layer.fills.isEmpty then
    match layer.runs with
    | [] => []
    | first :: others => if others.all (·.fills == first.fills) then first.fills else []
  else layer.fills

namespace Context

/-- A run alone: its typography, and the color of each plain fill. -/
def run (context : Context) (run : TextRun) : Styling :=
  let paints := (run.fills.filterMap Paint.solid?).map (context.solid · (some "text"))
  { classes := context.settings.typography run ++ .ofList (paints.map (·.text))
    colors := paints.filterMap (·.color?) }

def textTypography (context : Context) (layer : Layer) : Classes :=
  match layer.runs with
  | [] => .empty
  | [run] => context.settings.typography run
  | runs => .shared (runs.map context.settings.typography)

def text (context : Context) (layer : Layer) : Styling :=
  let fills := context.fillStyling layer layer.textFills
  { classes := context.textTypography layer ++ fills.classes
    sheet := fills.sheet
    colors := context.boundColors layer.textFills }

end Context

end UtilityMarkup
