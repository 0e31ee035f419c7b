/-!
# Assets

What markup refers to and has to be delivered with it.
-/

namespace UtilityMarkup

/-- A color that classes refer to by name. -/
structure NamedColor where
  name : String
  hex : String
deriving DecidableEq, Repr

/-- A picture of the document. -/
structure PictureAsset where
  /-- The name of the layer that shows the picture. -/
  name : String
  handle : String
  /-- The path by which markup refers to the picture. -/
  path : String
  /-- The bytes as a `data:` URI, empty when they are unavailable. -/
  dataUri : String
deriving DecidableEq, Repr

/-- Assets in the order in which they were found, repetitions included. -/
@[ext] structure Assets where
  pictures : List PictureAsset := []
  colors : List NamedColor := []
deriving DecidableEq, Repr

namespace Assets

instance : Append Assets where
  append a b := ⟨a.pictures ++ b.pictures, a.colors ++ b.colors⟩

@[simp] theorem pictures_append (a b : Assets) : (a ++ b).pictures = a.pictures ++ b.pictures := rfl

@[simp] theorem colors_append (a b : Assets) : (a ++ b).colors = a.colors ++ b.colors := rfl

theorem append_assoc (a b c : Assets) : a ++ b ++ c = a ++ (b ++ c) := by
  apply Assets.ext <;> simp

end Assets

end UtilityMarkup
