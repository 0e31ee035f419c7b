import UtilityMarkup.Document.Node
import UtilityMarkup.Utility.Naming

/-!
# Box size

Rotation, width and height of a layer.
-/

namespace UtilityMarkup

/-- The class of a width, given that of a fixed one. -/
def widthClass (sizing : Sizing) (fixed : String) : String :=
  match sizing with
  | .fill => "w-full"
  | .hug => "w-fit"
  | .fixed => fixed

/-- The class of a height, given that of a fixed one. In a flex parent a layer fills the height by
stretching. -/
def heightClass (sizing : Sizing) (inFlex : Bool) (fixed : String) : String :=
  match sizing with
  | .fill => if inFlex then "self-stretch" else "h-full"
  | .hug => "h-fit"
  | .fixed => fixed

def inFlex (parent? : Option Parent) : Bool :=
  parent?.any (·.isFlex)

namespace Vocabulary

def size (vocabulary : Vocabulary) (layer : Layer) (parent? : Option Parent) : List String :=
  [widthClass layer.layout.widthSizing (vocabulary.number .spacing (some "w") layer.box.width),
    heightClass layer.layout.heightSizing (inFlex parent?)
      (vocabulary.number .spacing (some "h") layer.box.height)]

/-- The document turns the other way round than a stylesheet does. -/
def rotation (vocabulary : Vocabulary) (layer : Layer) : String :=
  vocabulary.number .rotation (some "rotate") (Number.round (-layer.box.rotation))

end Vocabulary

end UtilityMarkup
