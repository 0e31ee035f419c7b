import UtilityMarkup.Document.Node
import UtilityMarkup.Utility.Naming

/-!
# Placement

Where a layer stands in its parent. A layer that is taken out of the flow is anchored once along
each axis: to the middle, to the far edge or to the near one.
-/

namespace UtilityMarkup

/-- What a layer is anchored to along one axis, and at which distance from an edge. -/
inductive Anchor where
  | middle
  | far (distance : Float)
  | near (distance : Float)
deriving Repr

namespace Anchor

/-- Distance from the middle of the parent within which a layer still counts as centered. -/
def tolerance : Float := 1

/-- The anchor of a stretch of the given length at an offset in its parent. -/
def along (offset length parentLength : Float) (pin : Pin) : Anchor :=
  if (offset + length / 2 - parentLength / 2).abs ≤ tolerance then middle
  else if pin = .far then far (parentLength - offset - length)
  else near offset

end Anchor

inductive Placement where
  /-- In the flow. A layer `anchors` when a child of it is placed absolutely. -/
  | inFlow (anchors : Bool)
  /-- Out of the flow, with anchors when there is a parent to be anchored to. -/
  | absolute (anchors? : Option (Anchor × Anchor))
deriving Repr

namespace Placement

def of (node : Node) (parent? : Option Parent) : Placement :=
  let layer := node.layer
  if layer.layout.isAbsolute then
    .absolute <| parent?.map fun parent =>
      (.along layer.box.x layer.box.width parent.width layer.layout.horizontalPin,
        .along layer.box.y layer.box.height parent.height layer.layout.verticalPin)
  else .inFlow node.hasAbsoluteChild

end Placement

namespace Vocabulary

/-- A distance from a side of the parent, spelled out even when it is zero. -/
def offset (vocabulary : Vocabulary) (side : String) (distance : Float) : String :=
  if distance == 0 then side ++ "-0" else vocabulary.number .spacing (some side) distance

def horizontalAnchor (vocabulary : Vocabulary) : Anchor → String
  | .middle => "left-0 right-0 mx-auto"
  | .far distance => vocabulary.offset "right" distance
  | .near distance => vocabulary.offset "left" distance

def verticalAnchor (vocabulary : Vocabulary) : Anchor → String
  | .middle => "top-0 bottom-0 my-auto"
  | .far distance => vocabulary.offset "bottom" distance
  | .near distance => vocabulary.offset "top" distance

def placement (vocabulary : Vocabulary) : Placement → List String
  | .inFlow true => ["relative"]
  | .inFlow false => []
  | .absolute none => ["absolute"]
  | .absolute (some (horizontal, vertical)) =>
    ["absolute", vocabulary.horizontalAnchor horizontal, vocabulary.verticalAnchor vertical]

end Vocabulary

end UtilityMarkup
