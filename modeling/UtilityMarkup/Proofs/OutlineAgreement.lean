import UtilityMarkup.Proofs.NormalForms
import UtilityMarkup.Proofs.Replacement

/-!
# Outlines and fragments

The outline of a node is known before anything is looked up, and the fragment that is generated
later keeps what the outline says of its tag and of the nodes inside it.
-/

namespace UtilityMarkup

namespace Context

variable {context : Context} {node : Node} {parent? : Option Parent} {fragment : Fragment}

lemma raw_of_shapeFragment {layer : Layer} (h : context.shapeFragment layer = .ok fragment) :
    ∃ markup assets, fragment = .raw markup assets := by
  obtain ⟨drawing, -, hfragment⟩ := bind_eq_ok_iff.mp h
  cases hfragment
  exact ⟨_, _, rfl⟩

lemma raw_of_iconFragment (h : context.iconFragment node parent? = .ok fragment) :
    ∃ markup assets, fragment = .raw markup assets := by
  obtain ⟨drawing, -, hfragment⟩ := bind_eq_ok_iff.mp h
  cases hfragment
  exact ⟨_, _, rfl⟩

lemma element_of_instanceFragment {layer : Layer}
    (h : context.instanceFragment layer = .ok fragment) :
    ∃ component, context.resources.components[layer.id]? = some component ∧
      fragment = .element (component.element (context.userTag? layer)) [] {} := by
  unfold instanceFragment at h
  split at h
  · rename_i component hcomponent
    cases h
    exact ⟨component, hcomponent, rfl⟩
  · cases h

lemma exists_pictureFragment (context : Context) (node : Node) (parent? : Option Parent)
    (tag : String) : ∃ head nested assets,
      context.pictureFragment node parent? tag = .element head nested assets ∧ head.tag = tag := by
  unfold pictureFragment
  split <;> exact ⟨_, _, _, rfl, rfl⟩

lemma exists_textFragment (context : Context) (layer : Layer) (tag : String) :
    ∃ head nested assets,
      context.textFragment layer tag = .element head nested assets ∧ head.tag = tag := by
  by_cases hruns : 1 < layer.runs.length
  · exact ⟨_, _, _, if_pos hruns, rfl⟩
  · exact ⟨_, _, _, if_neg hruns, rfl⟩

/-- All that a node can generate. -/
theorem generate_cases (h : context.generate node parent? = .ok fragment) :
    ((Role.of node).showsChildren = false ∧ ∃ markup assets, fragment = .raw markup assets) ∨
    (Role.of node = .componentInstance ∧
      ∃ component, context.resources.components[node.layer.id]? = some component ∧
        fragment = .element (component.element (context.userTag? node.layer)) [] {}) ∨
    (Role.of node ≠ .componentInstance ∧
      ∃ head nested assets, fragment = .element head nested assets ∧
        head.tag = (context.outline node).tag ∧
        ((Role.of node).showsChildren → nested = [] ∧ head.content? = none)) := by
  by_cases hshown : (Role.of node).showsChildren
  · obtain ⟨head, assets, hgenerate, htag, hcontent⟩ :=
      generate_of_showsChildren hshown context parent?
    have hrole : Role.of node ≠ .componentInstance := by
      intro hrole
      rw [hrole] at hshown
      cases hshown
    rw [hgenerate] at h
    cases h
    exact .inr (.inr ⟨hrole, head, [], assets, rfl, htag, fun _ => ⟨rfl, hcontent⟩⟩)
  · have hhidden : (Role.of node).showsChildren = false := by simpa using hshown
    cases hrole : Role.of node with
    | pictureContainer | container | component | other =>
      rw [hrole] at hhidden
      cases hhidden
    | shape =>
      simp only [generate, hrole] at h
      exact .inl ⟨rfl, raw_of_shapeFragment h⟩
    | icon =>
      simp only [generate, hrole] at h
      exact .inl ⟨rfl, raw_of_iconFragment h⟩
    | componentInstance =>
      simp only [generate, hrole] at h
      exact .inr (.inl ⟨rfl, element_of_instanceFragment h⟩)
    | picture =>
      simp only [generate, hrole] at h
      obtain ⟨head, nested, assets, hfragment, htag⟩ :=
        exists_pictureFragment context node parent? (context.outline node).tag
      rw [hfragment] at h
      cases h
      exact .inr (.inr ⟨by decide, head, nested, assets, rfl, htag,
        fun hshown => absurd hshown Bool.false_ne_true⟩)
    | text =>
      simp only [generate, hrole] at h
      obtain ⟨head, nested, assets, hfragment, htag⟩ :=
        exists_textFragment context node.layer (context.outline node).tag
      rw [hfragment] at h
      cases h
      exact .inr (.inr ⟨by decide, head, nested, assets, rfl, htag,
        fun hshown => absurd hshown Bool.false_ne_true⟩)

/-- An element without content and fragments of its own has nothing but the markup of the nodes
inside it between its tags. -/
lemma markup_around_element {head : Element} (hcontent : head.content? = none) (assets : Assets)
    (inside : List Output) :
    let markup := "\n".intercalate (inside.map (·.markup))
    (Output.around (.element head [] assets) inside).markup =
      head.opening ++ if head.isVoid then " />"
        else ">" ++ (if markup = "" then "" else "\n" ++ markup ++ "\n") ++ head.closing := by
  intro markup
  have hsection : head.contentSection = [] := by
    rw [Element.contentSection, hcontent]
    rfl
  rw [Output.around, Fragment.render_element, hsection, Fragment.nestedSection, if_pos rfl,
    List.nil_append, List.append_nil]
  cases hvoid : head.isVoid with
  | true =>
    rw [Element.render_of_isVoid hvoid]
    rfl
  | false =>
    rw [Element.render_of_not_isVoid hvoid]
    by_cases hempty : markup = "" <;> simp [Element.body, markup, hempty, String.append_assoc]

/-- Raw markup stands for its node as a whole. Where the outline shows the nodes inside a node, the
node is an element with the tag of the outline that holds nothing else. Every element has that tag,
except an instance without a tag of the user's, which is named after its component. -/
theorem outline_of_generate (h : context.generate node parent? = .ok fragment) :
    (∀ markup assets, fragment = .raw markup assets →
      (context.outline node).hidesChildren = true) ∧
    ((context.outline node).hidesChildren = false →
      ∃ head assets, fragment = .element head [] assets ∧
        head.tag = (context.outline node).tag ∧ head.content? = none ∧
        ∀ inside : List Output,
          let markup := "\n".intercalate (inside.map (·.markup))
          (Output.around fragment inside).markup =
            head.opening ++ if head.isVoid then " />"
              else ">" ++ (if markup = "" then "" else "\n" ++ markup ++ "\n") ++ head.closing) ∧
    ∀ head nested assets, fragment = .element head nested assets →
      if Role.of node = .componentInstance ∧ context.userTag? node.layer = none then
        ∃ component, context.resources.components[node.layer.id]? = some component ∧
          head.tag = component.tag
      else head.tag = (context.outline node).tag := by
  have hhides : (context.outline node).hidesChildren = !(Role.of node).showsChildren := rfl
  rcases generate_cases h with ⟨hhidden, markup, own, rfl⟩ | ⟨hrole, component, hcomponent, rfl⟩ |
    ⟨hrole, head, nested, own, rfl, htag, hshown⟩
  · refine ⟨fun _ _ _ => ?_, fun hshown => ?_, ?_⟩
    · rw [hhides, hhidden, Bool.not_false]
    · rw [hhides, hhidden] at hshown
      cases hshown
    · intro head nested assets hfragment
      cases hfragment
  · refine ⟨?_, fun hshown => ?_, ?_⟩
    · intro markup assets hfragment
      cases hfragment
    · rw [hhides, hrole] at hshown
      cases hshown
    · intro head nested assets hfragment
      cases hfragment
      split
      · rename_i hdefault
        refine ⟨component, hcomponent, ?_⟩
        rw [Component.element, hdefault.2]
        rfl
      · rename_i hchosen
        obtain ⟨tag, htag⟩ : ∃ tag, context.userTag? node.layer = some tag := by
          rw [← Option.ne_none_iff_exists']
          exact fun hnone => hchosen ⟨hrole, hnone⟩
        rw [Component.element, outline, Outline.of, htag]
        rfl
  · refine ⟨?_, fun hvisible => ?_, ?_⟩
    · intro markup assets hfragment
      cases hfragment
    · have hshows : (Role.of node).showsChildren = true := by
        rw [hhides] at hvisible
        simpa using hvisible
      obtain ⟨rfl, hcontent⟩ := hshown hshows
      exact ⟨head, own, rfl, htag, hcontent, markup_around_element hcontent own⟩
    · intro head' nested' assets' hfragment
      cases hfragment
      rw [if_neg fun hdefault => hrole hdefault.1]
      exact htag

end Context

/-! ### A button -/

def button : Node :=
  .mk { id := "button", name := "Button Copy", kind := .componentInstance } []

def buttonComponent : Component where
  name := "State=Idle"
  setName? := some "Primary Button"

def buttonResources : Resources where
  components := .ofList [("button", buttonComponent)]

lemma find_button : buttonResources.components["button"]? = some buttonComponent := by
  decide +kernel

lemma generate_button : Context.generate ⟨buttonResources, {}⟩ button none =
    .ok (.element (buttonComponent.element none) [] {}) := by
  have hrole : Role.of button = .componentInstance := rfl
  have hfound : buttonResources.components[button.layer.id]? = some buttonComponent := find_button
  have huser : Context.userTag? ⟨buttonResources, {}⟩ button.layer = none := by decide +kernel
  simp only [Context.generate, hrole, Context.instanceFragment, hfound, huser]

-- The outline has the name of the button itself, and the element that of its component.
theorem outline_of_generate_button :
    Context.generate ⟨buttonResources, {}⟩ button none =
      .ok (.element (buttonComponent.element none) [] {}) ∧
    (Context.outline ⟨buttonResources, {}⟩ button).tag = "ButtonCopy" ∧
    ∃ component, buttonResources.components["button"]? = some component ∧
      (buttonComponent.element none).tag = component.tag := by
  have htag := (Context.outline_of_generate generate_button).2.2 _ _ _ rfl
  rw [if_pos ⟨rfl, by decide +kernel⟩] at htag
  exact ⟨generate_button, by decide +kernel, htag⟩

end UtilityMarkup
