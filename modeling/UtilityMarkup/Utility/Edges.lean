import UtilityMarkup.Document.Node
import UtilityMarkup.Utility.Naming

/-!
# Paddings, borders and corners

Values that a layer has once per side or corner. Two that belong together and are equal share a
class; otherwise each has its own.
-/

namespace UtilityMarkup

/-- The stems of two values: the one that sets both, and the ones that set each alone. -/
structure PairStems where
  both : String
  first : String
  second : String
deriving DecidableEq, Repr

namespace PairStems

def horizontalPadding : PairStems := ⟨"px", "pl", "pr"⟩

def verticalPadding : PairStems := ⟨"py", "pt", "pb"⟩

def horizontalBorder : PairStems := ⟨"border-x", "border-l", "border-r"⟩

def verticalBorder : PairStems := ⟨"border-y", "border-t", "border-b"⟩

def startCorners : PairStems := ⟨"rounded-s", "rounded-ss", "rounded-es"⟩

def endCorners : PairStems := ⟨"rounded-e", "rounded-se", "rounded-ee"⟩

end PairStems

namespace Vocabulary

def pair (vocabulary : Vocabulary) (quantity : Quantity) (stems : PairStems)
    (first second : Float) : List String :=
  if first == second then [vocabulary.number quantity (some stems.both) first]
  else
    [vocabulary.number quantity (some stems.first) first,
      vocabulary.number quantity (some stems.second) second]

/-- Only a layer that lays out its children keeps them away from its sides. -/
def padding (vocabulary : Vocabulary) (layout : Layout) : List String :=
  if layout.isFlex then
    vocabulary.pair .spacing .horizontalPadding layout.padding.left layout.padding.right ++
      vocabulary.pair .spacing .verticalPadding layout.padding.top layout.padding.bottom
  else []

def strokeWeight (vocabulary : Vocabulary) : StrokeWeight → List String
  | .uniform weight => [vocabulary.number .border (some "border") weight]
  | .mixed weights =>
    vocabulary.pair .border .verticalBorder weights.top weights.bottom ++
      vocabulary.pair .border .horizontalBorder weights.left weights.right

def cornerRadius (vocabulary : Vocabulary) : CornerRadius → List String
  | .uniform radius => [vocabulary.number .radius (some "rounded") radius]
  | .mixed radii =>
    vocabulary.pair .radius .startCorners radii.topLeft radii.bottomLeft ++
      vocabulary.pair .radius .endCorners radii.topRight radii.bottomRight

end Vocabulary

end UtilityMarkup
