/-!
# Layout

Placement and box attributes of layers.
-/

namespace UtilityMarkup

/-- One value per side of a box. -/
structure Sides where
  top : Float
  right : Float
  bottom : Float
  left : Float
deriving Repr

namespace Sides

def zero : Sides := ⟨0, 0, 0, 0⟩

def symmetric (horizontal vertical : Float) : Sides :=
  ⟨vertical, horizontal, vertical, horizontal⟩

end Sides

/-- One value per corner of a box. -/
structure Corners where
  topLeft : Float
  topRight : Float
  bottomRight : Float
  bottomLeft : Float
deriving Repr

/-- Position in the parent, size, and rotation in degrees. -/
structure Box where
  x : Float := 0
  y : Float := 0
  width : Float := 0
  height : Float := 0
  rotation : Float := 0
deriving Repr

/-- The axis along which a layer lays out its children, if it does. -/
inductive Flow where
  | none
  | row
  | column
deriving DecidableEq, Repr

inductive Sizing where
  | fixed
  | hug
  | fill
deriving DecidableEq, Repr

/-- What a layer keeps its distance to when its parent is resized. -/
inductive Pin where
  | near
  | center
  | far
  | stretch
  | scale
deriving DecidableEq, Repr

inductive PrimaryAlign where
  | start
  | center
  | finish
  | spaceBetween
deriving DecidableEq, Repr

inductive CounterAlign where
  | start
  | center
  | finish
  | baseline
deriving DecidableEq, Repr

structure Layout where
  flow : Flow := .none
  widthSizing : Sizing := .fixed
  heightSizing : Sizing := .fixed
  isAbsolute : Bool := false
  horizontalPin : Pin := .near
  verticalPin : Pin := .near
  /-- One when the layer grows along its parent's primary axis. -/
  grow : Float := 0
  wraps : Bool := false
  primaryAlign : PrimaryAlign := .start
  counterAlign : CounterAlign := .start
  /-- Wrapped lines are spread over the counter axis. -/
  spreadsLines : Bool := false
  gap : Float := 0
  lineGap? : Option Float := none
  padding : Sides := .zero
deriving Repr

namespace Layout

def isFlex (layout : Layout) : Bool :=
  layout.flow != .none

end Layout

inductive StrokeWeight where
  | uniform (weight : Float)
  | mixed (weights : Sides)
deriving Repr

inductive CornerRadius where
  | uniform (radius : Float)
  | mixed (radii : Corners)
deriving Repr

end UtilityMarkup
