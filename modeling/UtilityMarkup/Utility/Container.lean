import UtilityMarkup.Utility.Backdrop
import UtilityMarkup.Utility.Edges
import UtilityMarkup.Utility.Flex
import UtilityMarkup.Utility.Placement

/-!
# Containers and pictures

The full styling of the layers that become boxes: containers with or without a picture behind their
content, and pictures that stand for themselves.
-/

namespace UtilityMarkup

namespace Context

/-- A layer has a border when it has strokes. The first of them gives the color. -/
def border (context : Context) (layer : Layer) : List String :=
  match layer.strokes with
  | [] => []
  | first :: _ =>
    context.vocabulary.strokeWeight layer.strokeWeight ++
      (first.solid?.map fun paint => (context.solid paint (some "border")).text).toList ++
      if layer.dashes.any (· != 0) then ["border-dashed"] else []

def container (context : Context) (node : Node) (parent? : Option Parent) : Styling :=
  let layer := node.layer
  let fills := context.fillStyling layer layer.fills
  let before := context.vocabulary.rotation layer ::
    (context.vocabulary.placement (.of node parent?) ++
      context.vocabulary.size layer parent? ++
      context.vocabulary.padding layer.layout ++
      [flexItem layer.layout parent?, if layer.clipsContent then "overflow-hidden" else ""] ++
      context.vocabulary.flexContainer layer.layout)
  let after := context.border layer ++ context.vocabulary.cornerRadius layer.cornerRadius
  { classes := .ofList before ++ fills.classes ++ .ofList after
    sheet := fills.sheet
    colors := context.boundColors layer.fills }

/-- The classes of an element that a picture replaces: a box without content or background. -/
def pictureBox (context : Context) (node : Node) (parent? : Option Parent) : Classes :=
  let layer := node.layer
  .ofList (context.vocabulary.rotation layer ::
    (context.vocabulary.placement (.of node parent?) ++
      context.vocabulary.size layer parent? ++
      [flexItem layer.layout parent?] ++
      context.border layer ++
      context.vocabulary.cornerRadius layer.cornerRadius))

def picture (context : Context) (node : Node) (parent? : Option Parent) (scaling : Scaling) :
    Classes :=
  (context.pictureBox node parent?).push <|
    match scaling with
    | .fit => "object-contain"
    | .fill | .crop | .tile => "object-cover"

/-- A container with a picture behind its content, referred to by its path. -/
def pictureContainer (context : Context) (node : Node) (parent? : Option Parent)
    (scaling : Scaling) (path : String) : Styling :=
  let styling := context.container node parent?
  let scalingClass :=
    match scaling with
    | .fill | .crop => "bg-cover"
    | .fit => "bg-contain"
    | .tile => "bg-repeat"
  { styling with
    classes := styling.classes ++ .ofList ["bg-[url(" ++ path ++ ")]", scalingClass, "bg-center"] }

end Context

end UtilityMarkup
