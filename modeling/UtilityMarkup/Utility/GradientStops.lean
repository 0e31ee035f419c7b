import UtilityMarkup.Utility.Context

/-!
# Gradients as classes

A gradient has classes of its own when it runs along a line or around its center, is not shifted,
and has at most three stops. One class gives the direction, and each stop has one for its color and
possibly one for its position.
-/

namespace UtilityMarkup

/-- The part that a stop plays in a gradient. -/
inductive StopRole where
  | first
  | middle
  | last
deriving DecidableEq, Repr

namespace StopRole

def stem : StopRole → String
  | first => "from"
  | middle => "via"
  | last => "to"

/-- The position that a stop has when no class gives it one. -/
def impliedPosition? : StopRole → Option Float
  | first => some 0
  | middle => none
  | last => some 1

end StopRole

namespace Gradient

/-- The gradient cannot be put into classes. -/
def isComplex (gradient : Gradient) : Bool :=
  match gradient.shape with
  | .radial | .diamond => true
  | .linear | .angular => gradient.transform.isTranslated || 3 < gradient.stops.length

/-- The direction on stylesheet terms. -/
def directionClass (gradient : Gradient) : String :=
  (if gradient.shape = .angular then "bg-conic-" else "bg-linear-") ++
    toString gradient.transform.angle ++ "/srgb"

/-- The stops in order, each with its role. Of more than three only the first has one. -/
def stopRoles (gradient : Gradient) : List (StopRole × Stop) :=
  match gradient.sortedStops with
  | [] => []
  | [first, last] => [(.first, first), (.last, last)]
  | [first, middle, last] => [(.first, first), (.middle, middle), (.last, last)]
  | first :: _ => [(.first, first)]

end Gradient

/-- A position in percent with at most two decimal places. -/
def percentText (position : Float) : String :=
  Number.literal (Number.round (position * 10000) / 100) ++ "%"

namespace Context

def stopClasses (context : Context) (role : StopRole) (stop : Stop) : List String :=
  let color := context.settings.color stop.color none (some role.stem)
  if role.impliedPosition?.any (· == stop.position) then [color]
  else [color, role.stem ++ "-" ++ percentText stop.position]

def gradientClasses (context : Context) (gradient : Gradient) : List String :=
  gradient.directionClass ::
    gradient.stopRoles.flatMap fun (role, stop) => context.stopClasses role stop

end Context

end UtilityMarkup
