import UtilityMarkup.Document.Layout
import UtilityMarkup.Document.TextRun
import UtilityMarkup.Text.Blank

/-!
# Nodes

The document is a tree of nodes. A node is a layer, which is all that the node is by itself, and
the nodes inside it.
-/

namespace UtilityMarkup

inductive Kind where
  | frame
  | group
  | pageSection
  | component
  | componentSet
  | componentInstance
  | text
  | rectangle
  | ellipse
  | polygon
  | star
  | line
  | vector
  | booleanOperation
  | other
deriving DecidableEq, Repr

namespace Kind

/-- Shapes, which are drawn rather than laid out. -/
def isShape : Kind → Bool
  | rectangle | ellipse | polygon | star | line | vector | booleanOperation => true
  | _ => false

end Kind

structure Layer where
  id : String
  name : String
  kind : Kind
  box : Box := {}
  layout : Layout := {}
  fills : List Paint := []
  strokes : List Paint := []
  strokeWeight : StrokeWeight := .uniform 1
  dashes : List Float := []
  cornerRadius : CornerRadius := .uniform 0
  clipsContent : Bool := false
  /-- Marked for export as an asset. -/
  isAsset : Bool := false
  /-- The runs of a text layer. -/
  runs : List TextRun := []
deriving Repr

namespace Layer

/-- The name without blanks. -/
def compactName (layer : Layer) : String :=
  Text.withoutBlanks layer.name

/-- The stem of the names of stylesheet utilities made for the layer. -/
def utilityName (layer : Layer) : String :=
  Text.lowerCase layer.compactName

/-- The first picture among the fills that has been uploaded. -/
def picture? (layer : Layer) : Option PicturePaint :=
  (layer.fills.filterMap Paint.picture?).find? (·.handle?.isSome)

/-- The text of all runs. -/
def characters (layer : Layer) : String :=
  String.join (layer.runs.map (·.characters))

end Layer

inductive Node where
  | mk (layer : Layer) (children : List Node)
deriving Repr

namespace Node

def layer : Node → Layer
  | mk layer _ => layer

def children : Node → List Node
  | mk _ children => children

def hasAbsoluteChild (node : Node) : Bool :=
  node.children.any (·.layer.layout.isAbsolute)

end Node

/-- What a node needs to know about the one around it. -/
structure Parent where
  width : Float := 0
  height : Float := 0
  isFlex : Bool := false
deriving Repr

namespace Layer

def asParent (layer : Layer) : Parent :=
  ⟨layer.box.width, layer.box.height, layer.layout.isFlex⟩

end Layer

end UtilityMarkup
