import UtilityMarkup.Token.Vocabulary

/-!
# Settings

Everything a compilation reads besides the document and its resources.
-/

namespace UtilityMarkup

/-- Where the pictures of a document are written. -/
structure PicturePaths where
  directory : String := "/images"
  fileType : String := "png"
deriving DecidableEq, Repr

namespace PicturePaths

def path (paths : PicturePaths) (name : String) : String :=
  .ofList (paths.directory.toList.reverse.dropWhile (· == '/')).reverse ++ "/" ++ name ++ "." ++
    paths.fileType

end PicturePaths

structure Settings where
  vocabulary : Vocabulary := .standard
  /-- The palette that came with the document, if one was imported. -/
  imported? : Option Palette := none
  /-- Names that the user gave to colors. -/
  custom : Palette := .empty
  /-- Tags that the user gave to layers, by layer id. -/
  tags : Std.ExtTreeMap String String := ∅
  pictures : PicturePaths := {}

namespace Settings

def userTag? (settings : Settings) (id : String) : Option String :=
  settings.tags[id]?

/-- The name that the imported palette or else the user has for a color. -/
def overridingName? (settings : Settings) (hex : String) : Option String :=
  (settings.imported?.bind (·.find? hex)).or (settings.custom.find? hex)

/-- The name of a color from all sources, the vocabulary last. -/
def colorName? (settings : Settings) (hex : String) : Option String :=
  (settings.overridingName? hex).or (settings.vocabulary.colors.find? hex)

end Settings

end UtilityMarkup
