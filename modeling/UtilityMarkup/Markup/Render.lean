import UtilityMarkup.Markup.Escape
import UtilityMarkup.Markup.Fragment

/-!
# Rendering

Fragments written out as markup. The sections of an element (its text, the markup of the nodes
inside it, and its nested fragments) start on lines of their own; raw markup is copied.
-/

namespace UtilityMarkup

namespace Attribute

def render : Attribute → String
  | ⟨name, .present⟩ => " " ++ name
  | ⟨name, .text value⟩ => " " ++ name ++ "=\"" ++ Markup.escapeValue value ++ "\""

end Attribute

namespace Element

/-- Elements that have neither content nor a closing tag. -/
def voidTags : List String :=
  ["area", "base", "br", "col", "embed", "hr", "img", "input", "link", "meta", "param", "source",
    "track", "wbr"]

def isVoid (element : Element) : Bool :=
  voidTags.contains element.tag

/-- The attributes with the class as the last of them. -/
def allAttributes (element : Element) : List Attribute :=
  element.attributes ++
    if element.className = "" then [] else [⟨"class", .text element.className⟩]

/-- The element around the given sections. -/
def render (element : Element) (sections : List String) : String :=
  let opening := "<" ++ element.tag ++ String.join (element.allAttributes.map Attribute.render)
  if element.isVoid then opening ++ " />"
  else
    let body := if sections = [] then "" else "\n" ++ "\n".intercalate sections ++ "\n"
    opening ++ ">" ++ body ++ "</" ++ element.tag ++ ">"

end Element

namespace Fragment

mutual

/-- Writes a fragment around the markup of the nodes inside it. -/
def render (inside : String) : Fragment → String
  | raw markup _ => markup
  | element head nested _ =>
    head.render (
      ((head.content?.map Markup.escapeText).filter (· ≠ "")).toList ++
        (if inside = "" then [] else [inside]) ++
        if nested.isEmpty then [] else ["\n".intercalate (renderAll nested)])

def renderAll : List Fragment → List String
  | [] => []
  | fragment :: fragments => fragment.render "" :: renderAll fragments

end

theorem renderAll_eq_map (fragments : List Fragment) :
    renderAll fragments = fragments.map (render "") := by
  induction fragments with
  | nil => rfl
  | cons fragment fragments ih => rw [renderAll, ih, List.map_cons]

end Fragment

end UtilityMarkup
