import UtilityMarkup.Document.Node
import UtilityMarkup.Utility.BoxSize
import UtilityMarkup.Utility.Context
import UtilityMarkup.Utility.Styling

/-!
# Icons

An icon has its size spelled out, and takes on the text color when it has one bound color.
-/

namespace UtilityMarkup

namespace Context

mutual

/-- The bound colors of the shapes under a node, in document order. A shape has those of its own
fills and hides what is below it. -/
def iconColors (context : Context) : Node → List NamedColor
  | .mk layer children =>
    if layer.kind.isShape then context.boundColors layer.fills
    else context.iconColorsOf children

def iconColorsOf (context : Context) : List Node → List NamedColor
  | [] => []
  | node :: nodes => context.iconColors node ++ context.iconColorsOf nodes

end

theorem iconColorsOf_eq_flatMap (context : Context) (nodes : List Node) :
    context.iconColorsOf nodes = nodes.flatMap context.iconColors := by
  induction nodes with
  | nil => rfl
  | cons node nodes ih => rw [iconColorsOf, ih, List.flatMap_cons]

/-- The class by which a drawing gets the only one of its colors. -/
def inkClasses : List NamedColor → List String
  | [color] => ["text-" ++ color.name]
  | _ => []

def icon (context : Context) (node : Node) (parent? : Option Parent) : Styling :=
  let layer := node.layer
  let colors := context.iconColors node
  { classes := .ofList
      (widthClass layer.layout.widthSizing ("w-[" ++ Number.literal layer.box.width ++ "px]") ::
        heightClass layer.layout.heightSizing (inFlex parent?)
          ("h-[" ++ Number.literal layer.box.height ++ "px]") ::
        inkClasses colors)
    colors := colors }

end Context

end UtilityMarkup
