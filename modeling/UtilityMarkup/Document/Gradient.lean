import UtilityMarkup.Document.Color

/-!
# Gradients

Gradient paints: their stops in order of position, and the stylesheet angle of their frame.
-/

namespace UtilityMarkup

inductive GradientShape where
  | linear
  | radial
  | angular
  | diamond
deriving DecidableEq, Repr

/-- A color at a position along the gradient, 0 at its start and 1 at its end. -/
structure Stop where
  position : Float
  color : Color
deriving BEq, Repr

/-- The affine map with rows `[xx, xy, dx]` and `[yx, yy, dy]` that places a gradient on a layer. -/
structure Transform where
  xx : Float
  xy : Float
  dx : Float
  yx : Float
  yy : Float
  dy : Float
deriving BEq, Repr

namespace Transform

/-- The map of a fresh gradient. -/
def initial : Transform := ⟨0, 1, 0, -1, 0, 1⟩

/-- The map shifts by something else than the initial map does. -/
def isTranslated (t : Transform) : Bool :=
  t.dx != 0 || t.dy != 1

/-- Degrees per radian. -/
def degreesPerRadian : Float := 57.29577951308232

/-- The direction in whole degrees, below 360. The map turns clockwise from the horizontal, while a
stylesheet measures from the upward direction the other way round. -/
def angle (t : Transform) : Nat :=
  let degrees := Float.atan2 t.yx t.xx * degreesPerRadian
  (Number.nearestInt (-(degrees - 180)) % 360).toNat

end Transform

structure Gradient where
  shape : GradientShape
  stops : List Stop
  transform : Transform := .initial
deriving BEq, Repr

namespace Gradient

/-- Stops by rising position. Stops of one position keep their order. -/
def sortedStops (gradient : Gradient) : List Stop :=
  gradient.stops.mergeSort fun a b =>
    Number.totalRank a.position ≤ Number.totalRank b.position

end Gradient

end UtilityMarkup
