import UtilityMarkup.Document.Paint
import UtilityMarkup.Document.Resources
import UtilityMarkup.Markup.Assets
import UtilityMarkup.Utility.Naming

/-!
# Bound colors

What all styling reads, and the colors that paints take from design variables.
-/

namespace UtilityMarkup

structure Context where
  resources : Resources
  settings : Settings

/-- The class of a solid paint, with the color that it needs to be delivered with. -/
structure PaintClass where
  text : String
  color? : Option NamedColor
deriving DecidableEq, Repr

namespace Context

def vocabulary (context : Context) : Vocabulary :=
  context.settings.vocabulary

/-- The name and value of the variable that a paint is bound to, when that is a color. -/
def boundColor? (context : Context) (paint : SolidPaint) : Option (String × Color) :=
  paint.boundTo?.bind context.resources.color?

/-- A variable with a color takes precedence over the color of the paint. The opacity is always that
of the paint. -/
def solid (context : Context) (paint : SolidPaint) (stem : Option String) : PaintClass :=
  match context.boundColor? paint with
  | some (name, value) =>
    { text := context.settings.color (value.fade paint.opacity) (some name) stem
      color? := some ⟨variableToken name, value.hex⟩ }
  | none =>
    { text := context.settings.color paint.ownColor none stem
      color? := none }

/-- The colors that paints take from variables, in the order of the paints. -/
def boundColors (context : Context) (paints : List Paint) : List NamedColor :=
  (paints.filterMap Paint.solid?).filterMap fun paint => (context.solid paint none).color?

end Context

end UtilityMarkup
