import UtilityMarkup.Document.Node

/-!
# Roles

What a node becomes in the output, which depends on nothing outside the document. The role settles
the tag of a node, up to the user's choice, and whether the nodes inside it appear in the output.
-/

namespace UtilityMarkup

inductive Role where
  /-- A shape, drawn by the application. -/
  | shape
  /-- A frame that is drawn by the application as a whole. -/
  | icon
  /-- A frame that shows a picture and nothing else. -/
  | picture
  /-- A frame with a picture behind its content. -/
  | pictureContainer
  | container
  | component
  | componentInstance
  | text
  | other
deriving DecidableEq, Repr

namespace Role

def ofFrame (node : Node) : Role :=
  if node.layer.picture?.isSome then
    if node.children.isEmpty then picture else pictureContainer
  else if node.layer.isAsset then icon else container

def of (node : Node) : Role :=
  if node.layer.kind.isShape then shape
  else
    match node.layer.kind with
    | .frame => ofFrame node
    | .componentSet => container
    | .component => component
    | .componentInstance => componentInstance
    | .text => text
    | _ => other

/-- The nodes inside a node of this role are compiled as well. -/
def showsChildren : Role → Bool
  | pictureContainer | container | component | other => true
  | shape | icon | picture | componentInstance | text => false

def defaultTag (layer : Layer) : Role → String
  | shape | icon => "svg"
  | picture => "img"
  | component => "component"
  | text => "p"
  | componentInstance => layer.compactName
  | pictureContainer | container | other => "div"

end Role

/-- What is known of the output of a node before anything is looked up. -/
structure Outline where
  tag : String
  hidesChildren : Bool
deriving DecidableEq, Repr

namespace Outline

def of (node : Node) (userTag? : Option String) : Outline where
  tag := userTag?.getD ((Role.of node).defaultTag node.layer)
  hidesChildren := !(Role.of node).showsChildren

end Outline

end UtilityMarkup
