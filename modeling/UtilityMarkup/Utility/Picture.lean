import UtilityMarkup.Document.Node
import UtilityMarkup.Text.Base64
import UtilityMarkup.Utility.Context

/-!
# Picture assets

The record of a picture that a layer shows, with its bytes inline where the application has them.
-/

namespace UtilityMarkup

/-- The media type of a file type. -/
def mediaType (fileType : String) : String :=
  let name := fileType.toLower
  if name = "jpg" ∨ name = "jpeg" then "image/jpeg"
  else if name = "svg" then "image/svg+xml"
  else "image/" ++ name

namespace Context

/-- The path of the picture of a layer. -/
def picturePath (context : Context) (layer : Layer) : String :=
  context.settings.pictures.path layer.compactName

def pictureAsset (context : Context) (layer : Layer) (paint : PicturePaint) : PictureAsset where
  name := layer.name
  handle := paint.handle?.getD ""
  path := context.picturePath layer
  dataUri :=
    match paint.handle?.bind (context.resources.pictures[·]?) with
    | some bytes =>
      "data:" ++ mediaType context.settings.pictures.fileType ++ ";base64," ++
        Text.Base64.encode bytes
    | none => ""

end Context

end UtilityMarkup
