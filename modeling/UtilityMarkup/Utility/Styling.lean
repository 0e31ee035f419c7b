import UtilityMarkup.Markup.Assets
import UtilityMarkup.Utility.Classes

/-!
# Stylings

What makes up the look of one element: its classes, the stylesheet blocks that they need, and the
colors that they name.
-/

namespace UtilityMarkup

/-- Puts a block on a line of its own behind a stylesheet. An empty block adds nothing. -/
def addBlock (sheet block : String) : String :=
  if block = "" then sheet else if sheet = "" then block else sheet ++ "\n" ++ block

structure Styling where
  classes : Classes
  sheet : String := ""
  colors : List NamedColor := []

end UtilityMarkup
