import UtilityMarkup.Document.Gradient

/-!
# Paints

What a layer is filled or stroked with.
-/

namespace UtilityMarkup

/-- A single color, possibly taken from the design variable with the given id. -/
structure SolidPaint where
  color : Color
  opacity : Float := 1
  boundTo? : Option String := none
deriving BEq, Repr

namespace SolidPaint

/-- The color of the paint itself, with its opacity. -/
def ownColor (paint : SolidPaint) : Color :=
  paint.color.fade paint.opacity

end SolidPaint

/-- How a picture is fitted into its layer. -/
inductive Scaling where
  | fill
  | fit
  | crop
  | tile
deriving DecidableEq, Repr

/-- A picture paint. It has no handle until its bytes have been uploaded. -/
structure PicturePaint where
  handle? : Option String
  scaling : Scaling := .fill
deriving BEq, Repr

/-- Paints are compared by what they denote, so a NaN anywhere makes a paint differ from itself. -/
inductive Paint where
  | solid (paint : SolidPaint)
  | gradient (paint : Gradient)
  | picture (paint : PicturePaint)
deriving BEq, Repr

namespace Paint

def solid? : Paint → Option SolidPaint
  | solid paint => some paint
  | _ => none

def picture? : Paint → Option PicturePaint
  | picture paint => some paint
  | _ => none

end Paint

end UtilityMarkup
