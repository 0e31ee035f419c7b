import UtilityMarkup.Document.Resources
import UtilityMarkup.Markup.Fragment
import UtilityMarkup.Text.Blank

/-!
# Instances

An instance becomes an element named after its component, with the variant as its attributes.
-/

namespace UtilityMarkup

namespace Component

/-- A variant goes by the name of its set. -/
def tag (component : Component) : String :=
  Text.withoutBlanks (component.setName?.getD component.name)

/-- A property without a name is left out, as is one that is false; one that is true counts by
being there. -/
def attribute? (property : String × String) : Option Attribute :=
  let name := Text.withoutBlanks property.1
  let value := property.2.toLower
  if name = "" ∨ value = "false" then none
  else some ⟨name, if value = "true" then .present else .text property.2⟩

def attributes (component : Component) : List Attribute :=
  component.properties.filterMap attribute?

def element (component : Component) (userTag? : Option String) : Element where
  tag := userTag?.getD component.tag
  attributes := component.attributes

end Component

end UtilityMarkup
