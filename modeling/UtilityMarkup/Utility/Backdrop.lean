import UtilityMarkup.Document.Node
import UtilityMarkup.Utility.GradientStops
import UtilityMarkup.Utility.Styling

/-!
# Backdrops

The fills of a layer as classes. What no class can express is taken from the stylesheet text that
the application has for the layer, and registered as a utility named after the layer.
-/

namespace UtilityMarkup

/-- What a list of fills amounts to. -/
inductive Backdrop where
  /-- Nothing to paint here; a picture is painted elsewhere. -/
  | bare
  | plain (paint : SolidPaint)
  | gradient (paint : Gradient)
  | complexGradient
  | layered
deriving Repr

namespace Backdrop

def ofFills : List Paint → Backdrop
  | [] | [.picture _] => bare
  | [.solid paint] => plain paint
  | [.gradient paint] => if paint.isComplex then complexGradient else gradient paint
  | _ :: _ :: _ => layered

end Backdrop

/-- Text over the background shows it through its glyphs. -/
def clipToText : String := "text-transparent bg-clip-text"

/-- The definition of a utility that sets a background. -/
def utilityBlock (name background : String) : String :=
  "@utility " ++ name ++ " \x7b background-image: " ++ background ++ "; \x7d"

namespace Context

/-- The stylesheet text for the background of a layer, unless it is blank. -/
def background? (context : Context) (layer : Layer) : Option String :=
  (context.resources.backgrounds[layer.id]?.map Text.trim).filter (· ≠ "")

/-- A utility for the whole background, and the classes that text needs besides. -/
def registered (context : Context) (layer : Layer) (name : String) (onText : List String) :
    Styling :=
  match context.background? layer with
  | some background =>
    { classes := .ofList (name :: if layer.kind = .text then onText else [])
      sheet := utilityBlock name background }
  | none => { classes := .empty }

/-- Plain fills color the glyphs of text and the background of everything else. -/
def fillStyling (context : Context) (layer : Layer) (fills : List Paint) : Styling :=
  let isText := layer.kind == .text
  match Backdrop.ofFills fills with
  | .bare => { classes := .empty }
  | .plain paint =>
    { classes := .ofList [(context.solid paint (some (if isText then "text" else "bg"))).text] }
  | .gradient paint =>
    { classes := .ofList
        (context.gradientClasses paint ++ if isText then ["w-fit", clipToText] else []) }
  | .complexGradient =>
    context.registered layer (layer.utilityName ++ "_gradient") ["w-fit", clipToText]
  | .layered => context.registered layer (layer.utilityName ++ "_bg") [clipToText]

end Context

end UtilityMarkup
