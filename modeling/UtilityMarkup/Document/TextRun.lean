import UtilityMarkup.Document.Paint
import UtilityMarkup.Text.LowerCase
import UtilityMarkup.Text.Search

/-!
# Text runs

Stretches of text with one typography.
-/

namespace UtilityMarkup

structure Font where
  family : String
  style : String
deriving DecidableEq, Repr

namespace Font

/-- The style name says so, in any case. -/
def isItalic (font : Font) : Bool :=
  Text.occursIn "italic" (Text.lowerCase font.style)

end Font

inductive Length where
  | auto
  | pixels (amount : Float)
  | percent (amount : Float)
deriving Repr

inductive LetterCase where
  | asTyped
  | upper
  | lower
  | title
  | smallCaps
  | forcedSmallCaps
deriving DecidableEq, Repr

inductive Decoration where
  | none
  | underline
  | strikethrough
deriving DecidableEq, Repr

inductive DecorationStyle where
  | solid
  | wavy
  | dotted
deriving DecidableEq, Repr

inductive ListStyle where
  | none
  | ordered
  | unordered
deriving DecidableEq, Repr

structure TextRun where
  characters : String
  font : Font := ⟨"Inter", "Regular"⟩
  size : Float := 16
  weight : Float := 400
  letterSpacing : Length := .pixels 0
  lineHeight : Length := .auto
  letterCase : LetterCase := .asTyped
  decoration : Decoration := .none
  /-- Without a color of its own the decoration has that of the text. -/
  decorationColor? : Option Color := none
  decorationStyle? : Option DecorationStyle := none
  decorationThickness : Length := .auto
  fills : List Paint := []
  listStyle : ListStyle := .none
  indent : Float := 0
  link? : Option String := none
deriving Repr

end UtilityMarkup
