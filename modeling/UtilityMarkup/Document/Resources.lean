import Std.Data.ExtTreeMap
import UtilityMarkup.Document.Color

/-!
# Resources

What the application that owns the document can look up beyond the nodes themselves.
-/

namespace UtilityMarkup

/-- A named design variable. It has a color only when it is a color variable. -/
structure Variable where
  name : String
  color? : Option Color := none
deriving Repr

/-- The component that an instance was made from. -/
structure Component where
  name : String
  /-- The variant set that the component belongs to. -/
  setName? : Option String := none
  properties : List (String × String) := []
deriving DecidableEq, Repr

structure Resources where
  /-- By variable id. -/
  designVariables : Std.ExtTreeMap String Variable := ∅
  /-- Vector markup by layer id. -/
  drawings : Std.ExtTreeMap String String := ∅
  /-- Stylesheet text of a background by layer id. -/
  backgrounds : Std.ExtTreeMap String String := ∅
  /-- Picture bytes by handle. -/
  pictures : Std.ExtTreeMap String (List UInt8) := ∅
  /-- Components by the layer id of an instance. -/
  components : Std.ExtTreeMap String Component := ∅

namespace Resources

/-- The name and value of a variable that is a color. -/
def color? (resources : Resources) (id : String) : Option (String × Color) := do
  let var ← resources.designVariables[id]?
  let color ← var.color?
  return (var.name, color)

/-- The vector markup of a layer, or what is reported in its absence. -/
def drawing (resources : Resources) (id : String) : Except String String :=
  match resources.drawings[id]? with
  | some markup => .ok markup
  | none => .error ("no export registered for node " ++ id)

end Resources

end UtilityMarkup
