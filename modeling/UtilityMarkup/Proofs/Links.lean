import Mathlib.Data.List.Basic
import UtilityMarkup.Compile.Output

/-!
# Links

The links of a text layer are those of its runs. Among several runs each linked one becomes an
anchor, in the order of the runs. A run that is alone leaves its text to the element of the layer,
and its link gets lost.
-/

namespace UtilityMarkup

/-- Text that leads to a target. -/
structure Link where
  target : String
  text : String
deriving DecidableEq, Repr

namespace TextRun

def linked? (run : TextRun) : Option Link :=
  run.link?.map (⟨·, run.characters⟩)

end TextRun

namespace Layer

def links (layer : Layer) : List Link :=
  layer.runs.filterMap TextRun.linked?

end Layer

/-! ### Anchors -/

namespace Attribute

def target? : Attribute → Option String
  | ⟨"href", .text target⟩ => some target
  | _ => none

end Attribute

namespace Element

/-- The target and the text of an anchor. -/
def link? (head : Element) : Option Link :=
  if head.tag = "a" then
    (head.attributes.findSome? Attribute.target?).bind fun target => head.content?.map (⟨target, ·⟩)
  else none

lemma link?_of_no_attributes {head : Element} (h : head.attributes = []) : head.link? = none := by
  simp [link?, h]

end Element

namespace Fragment

mutual

/-- The links of all anchors in a fragment, in the order in which they are written. -/
def links : Fragment → List Link
  | raw _ _ => []
  | element head nested _ => head.link?.toList ++ linksOf nested

def linksOf : List Fragment → List Link
  | [] => []
  | fragment :: fragments => fragment.links ++ linksOf fragments

end

lemma linksOf_eq_flatMap (fragments : List Fragment) :
    linksOf fragments = fragments.flatMap links := by
  induction fragments with
  | nil => rfl
  | cons fragment fragments ih => rw [linksOf, ih, List.flatMap_cons]

end Fragment

namespace Context

lemma links_runFragment (context : Context) (run : TextRun) :
    (context.runFragment run).links = run.linked?.toList := by
  cases hlink : run.link? with
  | none =>
    simp [runFragment, hlink, Fragment.links, Fragment.linksOf, Element.link?, TextRun.linked?]
  | some target =>
    simp [runFragment, hlink, Fragment.links, Fragment.linksOf, Element.link?, TextRun.linked?,
      Attribute.target?]

lemma links_textFragment_of_several (context : Context) {layer : Layer} (tag : String)
    (h : 1 < layer.runs.length) : (context.textFragment layer tag).links = layer.links := by
  have hhead : (styled tag (context.text layer)).link? = none :=
    Element.link?_of_no_attributes rfl
  rw [textFragment, if_pos h, Fragment.links, hhead, Fragment.linksOf_eq_flatMap, List.flatMap_map,
    Layer.links, List.filterMap_eq_flatMap_toList]
  simp only [links_runFragment, Option.toList_none, List.nil_append]

lemma links_textFragment_of_few (context : Context) {layer : Layer} (tag : String)
    (h : ¬1 < layer.runs.length) : (context.textFragment layer tag).links = [] := by
  rw [textFragment, if_neg h, Fragment.links, Element.link?_of_no_attributes rfl]
  rfl

/-- Among several runs every link is written as an anchor with the text of its run, in the order of
the runs. A single run is written without an anchor, so the links of a layer are lost exactly when
its only run is linked. -/
theorem links_textFragment (context : Context) (layer : Layer) (tag : String) :
    (context.textFragment layer tag).links =
      (if 1 < layer.runs.length then layer.links else []) ∧
    ((context.textFragment layer tag).links = layer.links ↔
      ¬∃ run target, layer.runs = [run] ∧ run.link? = some target) := by
  by_cases hseveral : 1 < layer.runs.length
  · rw [if_pos hseveral, context.links_textFragment_of_several tag hseveral]
    refine ⟨rfl, iff_of_true rfl ?_⟩
    rintro ⟨run, target, hruns, -⟩
    simp [hruns] at hseveral
  · rw [if_neg hseveral, context.links_textFragment_of_few tag hseveral]
    refine ⟨rfl, ?_⟩
    match hruns : layer.runs, hseveral with
    | [], _ => simp [Layer.links, hruns]
    | [run], _ =>
      cases hlink : run.link? with
      | none => simp [Layer.links, hruns, TextRun.linked?, hlink]
      | some target => simp [Layer.links, hruns, TextRun.linked?, hlink]
    | _ :: _ :: _, hfew => simp at hfew

end Context

/-! ### A single linked run -/

def docsLink : Node :=
  .mk { id := "docs", name := "Docs", kind := .text
        runs := [{ characters := "docs", link? := some "/docs" }] } []

theorem docsLink_lost :
    docsLink.layer.links = [⟨"/docs", "docs"⟩] ∧
    (Context.textFragment ⟨{}, {}⟩ docsLink.layer "p").links = [] ∧
    Context.compile ⟨{}, {}⟩ docsLink =
      .ok { markup := "<p class=\"font-[Inter] text-base font-normal\">\ndocs\n</p>" } := by
  exact ⟨by decide +kernel, by decide +kernel, by decide +kernel⟩

end UtilityMarkup
