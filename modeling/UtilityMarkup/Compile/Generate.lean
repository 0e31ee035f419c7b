import UtilityMarkup.Compile.Failure
import UtilityMarkup.Compile.Instance
import UtilityMarkup.Compile.Role
import UtilityMarkup.Markup.Drawing
import UtilityMarkup.Utility.Container
import UtilityMarkup.Utility.Icon
import UtilityMarkup.Utility.Picture
import UtilityMarkup.Utility.Typography

/-!
# Generation

The fragment of a single node, without the nodes inside it.
-/

namespace UtilityMarkup

namespace Context

def userTag? (context : Context) (layer : Layer) : Option String :=
  context.settings.userTag? layer.id

def outline (context : Context) (node : Node) : Outline :=
  .of node (context.userTag? node.layer)

/-! ## Drawings -/

def drawing (context : Context) (layer : Layer) : Except Failure String :=
  (context.resources.drawing layer.id).mapError (Failure.notDrawn layer.name)

/-- Lets a drawing with one bound color take its color from the text around it. -/
def inked (colors : List NamedColor) (markup : String) : String :=
  match colors with
  | [color] => Markup.useCurrentColor markup color.hex
  | _ => markup

def shapeFragment (context : Context) (layer : Layer) : Except Failure Fragment := do
  let markup ← context.drawing layer
  let colors := context.boundColors layer.fills
  return .raw (Markup.injectClasses (inked colors markup) (" ".intercalate (inkClasses colors)))
    { colors := colors }

def iconFragment (context : Context) (node : Node) (parent? : Option Parent) :
    Except Failure Fragment := do
  let markup ← context.drawing node.layer
  let styling := context.icon node parent?
  return .raw (Markup.injectClasses (inked styling.colors markup) styling.classes.text)
    { colors := styling.colors }

/-! ## Elements -/

/-- An element with the look of a styling. -/
def styled (tag : String) (styling : Styling) : Element where
  tag := tag
  className := styling.classes.text
  sheet := styling.sheet

def containerFragment (context : Context) (node : Node) (parent? : Option Parent) (tag : String) :
    Fragment :=
  let styling := context.container node parent?
  .element (styled tag styling) [] { colors := styling.colors }

def pictureFragment (context : Context) (node : Node) (parent? : Option Parent) (tag : String) :
    Fragment :=
  match node.layer.picture? with
  | none => .element { tag := tag } [] {}
  | some paint =>
    let asset := context.pictureAsset node.layer paint
    .element
      { tag := tag
        attributes := [⟨"src", .text asset.path⟩]
        className := (context.picture node parent? paint.scaling).text }
      [] { pictures := [asset] }

def pictureContainerFragment (context : Context) (node : Node) (parent? : Option Parent)
    (tag : String) : Fragment :=
  match node.layer.picture? with
  | none => .element { tag := tag } [] {}
  | some paint =>
    let path := context.picturePath node.layer
    let styling := context.pictureContainer node parent? paint.scaling path
    .element (styled tag styling) []
      { pictures := [context.pictureAsset node.layer paint], colors := styling.colors }

def instanceFragment (context : Context) (layer : Layer) : Except Failure Fragment :=
  match context.resources.components[layer.id]? with
  | some component => .ok (.element (component.element (context.userTag? layer)) [] {})
  | none => .error (.unknownComponent layer.name)

/-! ## Text -/

/-- A run among others, which is a link if it leads somewhere. -/
def runFragment (context : Context) (run : TextRun) : Fragment :=
  let styling := context.run run
  let element : Element :=
    match run.link? with
    | some target => { tag := "a", attributes := [⟨"href", .text target⟩] }
    | none => { tag := "span" }
  .element { element with className := styling.classes.text, content? := some run.characters } []
    { colors := styling.colors }

/-- A single run is the content of its text layer; several are elements inside it. -/
def textFragment (context : Context) (layer : Layer) (tag : String) : Fragment :=
  let styling := context.text layer
  let assets : Assets := { colors := styling.colors }
  if 1 < layer.runs.length then
    .element (styled tag styling) (layer.runs.map context.runFragment) assets
  else .element { styled tag styling with content? := some layer.characters } [] assets

/-! ## All roles -/

def generate (context : Context) (node : Node) (parent? : Option Parent) :
    Except Failure Fragment :=
  let tag := (context.outline node).tag
  match Role.of node with
  | .shape => context.shapeFragment node.layer
  | .icon => context.iconFragment node parent?
  | .picture => .ok (context.pictureFragment node parent? tag)
  | .pictureContainer => .ok (context.pictureContainerFragment node parent? tag)
  | .container | .component => .ok (context.containerFragment node parent? tag)
  | .componentInstance => context.instanceFragment node.layer
  | .text => .ok (context.textFragment node.layer tag)
  | .other => .ok (.element { tag := tag } [] {})

end Context

end UtilityMarkup
