import UtilityMarkup.Proofs.Reading

/-!
# Normal forms of fragments

The normal form of a fragment leaves out what does not show in markup: assets, stylesheets, empty
text, and whatever is inside an element without content. A fragment and its normal form are written
alike.
-/

namespace UtilityMarkup

namespace Element

/-- What shows of an element in markup. Its class becomes an attribute like the others. -/
def shown (head : Element) : Element where
  tag := head.tag
  attributes := head.allAttributes
  content? := if head.isVoid then none else head.content?.filter (· ≠ "")

def opening (head : Element) : String :=
  "<" ++ head.tag ++ String.join (head.allAttributes.map Attribute.render)

def closing (head : Element) : String :=
  "</" ++ head.tag ++ ">"

def body (sections : List String) : String :=
  if sections = [] then "" else "\n" ++ "\n".intercalate sections ++ "\n"

lemma render_of_isVoid {head : Element} (h : head.isVoid = true) (sections : List String) :
    head.render sections = head.opening ++ " />" := by
  rw [render, if_pos h, opening]

lemma render_of_not_isVoid {head : Element} (h : head.isVoid = false) (sections : List String) :
    head.render sections = head.opening ++ ">" ++ body sections ++ head.closing := by
  rw [render, if_neg (by simp [h]), opening, body, closing]
  simp only [String.append_assoc]

lemma isVoid_shown (head : Element) : head.shown.isVoid = head.isVoid := rfl

lemma closing_shown (head : Element) : head.shown.closing = head.closing := rfl

lemma opening_shown (head : Element) : head.shown.opening = head.opening := by
  have hattributes : head.shown.allAttributes = head.allAttributes := by
    rw [allAttributes, shown, if_pos rfl, List.append_nil]
  rw [opening, opening, hattributes]
  rfl

/-- The text of an element, unless there is none to show. -/
def contentSection (head : Element) : List String :=
  ((head.content?.filter (· ≠ "")).map Markup.escapeText).toList

lemma contentSection_shown {head : Element} (h : head.isVoid = false) :
    head.shown.contentSection = head.contentSection := by
  rw [contentSection, contentSection, shown, if_neg (by simp [h])]
  cases head.content? with
  | none => rfl
  | some content => by_cases hcontent : content = "" <;> simp [Option.filter, hcontent]

end Element

namespace Fragment

/-- What holds of raw markup, and of an element once it holds of its nested fragments, holds of
every fragment. -/
@[elab_as_elim]
protected theorem induction {motive : Fragment → Prop}
    (raw : ∀ markup assets, motive (.raw markup assets))
    (element : ∀ head nested assets, (∀ inner ∈ nested, motive inner) →
      motive (.element head nested assets)) :
    ∀ fragment, motive fragment
  | .raw markup assets => raw markup assets
  | .element head nested assets =>
    element head nested assets fun inner _ => Fragment.induction raw element inner

mutual

/-- Keeps of a fragment what shows in markup. -/
def normal : Fragment → Fragment
  | raw markup _ => .raw markup {}
  | element head nested _ => .element head.shown (if head.isVoid then [] else normalAll nested) {}

def normalAll : List Fragment → List Fragment
  | [] => []
  | fragment :: fragments => fragment.normal :: normalAll fragments

end

lemma normalAll_eq_map (fragments : List Fragment) :
    normalAll fragments = fragments.map normal := by
  induction fragments with
  | nil => rfl
  | cons fragment fragments ih => rw [normalAll, ih, List.map_cons]

lemma normal_of_isVoid {head : Element} (h : head.isVoid = true) (nested : List Fragment)
    (assets : Assets) : (element head nested assets).normal = .element head.shown [] {} := by
  rw [normal, if_pos h]

lemma normal_of_not_isVoid {head : Element} (h : head.isVoid = false) (nested : List Fragment)
    (assets : Assets) :
    (element head nested assets).normal = .element head.shown (nested.map normal) {} := by
  rw [normal, if_neg (by simp [h]), normalAll_eq_map]

/-! ### Sections -/

def nestedSection (nested : List Fragment) : List String :=
  if nested = [] then [] else ["\n".intercalate (nested.map (render ""))]

lemma escapeText_eq_empty_iff {text : String} : Markup.escapeText text = "" ↔ text = "" := by
  constructor
  · intro h
    have hread := Markup.unescape_escapeText text
    rw [h] at hread
    exact String.toList_eq_nil_iff.mp hread.symm
  · rintro rfl
    rfl

lemma render_element (head : Element) (nested : List Fragment) (assets : Assets)
    (inside : String) : (element head nested assets).render inside =
      head.render (head.contentSection ++ (if inside = "" then [] else [inside]) ++
        nestedSection nested) := by
  have hcontent : (head.content?.map Markup.escapeText).filter (· ≠ "") =
      (head.content?.filter (· ≠ "")).map Markup.escapeText := by
    cases head.content? with
    | none => rfl
    | some content => by_cases h : content = "" <;> simp [Option.filter, h, escapeText_eq_empty_iff]
  simp only [render, Element.contentSection, nestedSection, hcontent, List.isEmpty_iff,
    renderAll_eq_map]

/-- A fragment and its normal form are written alike. -/
theorem render_normal (fragment : Fragment) (inside : String) :
    fragment.normal.render inside = fragment.render inside := by
  induction fragment using Fragment.induction generalizing inside with
  | raw markup assets => rfl
  | element head nested assets ih =>
    cases hvoid : head.isVoid with
    | true =>
      have hshown : head.shown.isVoid = true := by rw [Element.isVoid_shown, hvoid]
      rw [normal_of_isVoid hvoid, render_element, render_element, Element.render_of_isVoid hvoid,
        Element.render_of_isVoid hshown, Element.opening_shown]
    | false =>
      have hshown : head.shown.isVoid = false := by rw [Element.isVoid_shown, hvoid]
      have hnested : nestedSection (nested.map normal) = nestedSection nested := by
        have hrender : (nested.map normal).map (render "") = nested.map (render "") := by
          rw [List.map_map]
          exact List.map_congr_left fun inner hinner => ih inner hinner ""
        simp only [nestedSection, List.map_eq_nil_iff, hrender]
      rw [normal_of_not_isVoid hvoid, render_element, render_element,
        Element.render_of_not_isVoid hvoid, Element.render_of_not_isVoid hshown,
        Element.opening_shown, Element.closing_shown, Element.contentSection_shown hvoid, hnested]

end Fragment

end UtilityMarkup
