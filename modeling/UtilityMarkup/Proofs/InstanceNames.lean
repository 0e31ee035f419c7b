import UtilityMarkup.Proofs.FaithfulRendering
import UtilityMarkup.Proofs.Visits
import UtilityMarkup.Proofs.Words

/-!
# Names of instances

The element of an instance is named after a component, and its attributes after the properties of
that component. Blanks are all that is taken out of these names. What is left is a valid name unless
it is empty or holds a character that markup is made of, and from valid names the element can be
read back.
-/

namespace UtilityMarkup

namespace Markup

/-- The characters besides blanks that no name in markup may hold. -/
def reserved : List Char := "<>\"'=/".toList

structure IsValidName (name : String) : Prop extends Text.IsWord name where
  unreserved : ∀ c ∈ reserved, c ∉ name.toList

lemma isValidName_iff {name : String} :
    IsValidName name ↔ name ≠ "" ∧ Text.Unbroken name ∧
      name.toList.all fun c => !reserved.contains c := by
  have hall : (name.toList.all fun c => !reserved.contains c) ↔
      ∀ c ∈ reserved, c ∉ name.toList := by
    simp only [List.all_eq_true, Bool.not_eq_true', ← Bool.not_eq_true, List.contains_iff_mem]
    exact ⟨fun h c hc hmem => h c hmem hc, fun h c hc hmem => h c hmem hc⟩
  rw [hall]
  exact ⟨fun h => ⟨h.ne_empty, h.unbroken, h.unreserved⟩, fun ⟨hne, hunbroken, hunreserved⟩ =>
    ⟨⟨hne, hunbroken⟩, hunreserved⟩⟩

instance : DecidablePred IsValidName := fun _ => decidable_of_iff _ isValidName_iff.symm

lemma isBlank_of_mem_reserved {c : Char} (hc : c ∈ reserved) : Text.isBlank c = false := by
  have hreserved : ∀ c ∈ reserved, Text.isBlank c = false := by
    rw [← List.forall_iff_forall_mem]
    decide
  exact hreserved c hc

lemma IsValidName.isName {name : String} (h : IsValidName name) : IsName name := by
  refine ⟨h.ne_empty, fun c hc => ?_⟩
  rw [endsName, h.unbroken c hc, Bool.false_or, ← Bool.not_eq_true, List.contains_iff_mem]
  intro hmem
  have hsub : ['<', '>', '"', '=', '/'] ⊆ reserved := by decide
  exact h.unreserved c (hsub hmem) hc

/-! ### Names without blanks -/

lemma mem_withoutBlanks_iff {text : String} {c : Char} :
    c ∈ (Text.withoutBlanks text).toList ↔ c ∈ text.toList ∧ Text.isBlank c = false := by
  simp [Text.withoutBlanks]

lemma withoutBlanks_ne_empty_iff {text : String} :
    Text.withoutBlanks text ≠ "" ↔ ∃ c ∈ text.toList, Text.isBlank c = false := by
  rw [ne_eq, ← String.toList_eq_nil_iff, List.eq_nil_iff_forall_not_mem]
  simp only [mem_withoutBlanks_iff, not_forall, not_not]

/-- No reserved character is lost with the blanks. -/
theorem isValidName_withoutBlanks_iff {text : String} :
    IsValidName (Text.withoutBlanks text) ↔
      (∃ c ∈ text.toList, Text.isBlank c = false) ∧ ∀ c ∈ reserved, c ∉ text.toList := by
  have hmem (c : Char) (hc : c ∈ reserved) :
      c ∈ (Text.withoutBlanks text).toList ↔ c ∈ text.toList := by
    simp [mem_withoutBlanks_iff, isBlank_of_mem_reserved hc]
  constructor
  · intro h
    refine ⟨withoutBlanks_ne_empty_iff.mp h.ne_empty, fun c hc => ?_⟩
    rw [← hmem c hc]
    exact h.unreserved c hc
  · rintro ⟨hkept, hunreserved⟩
    refine ⟨⟨withoutBlanks_ne_empty_iff.mpr hkept, Text.unbroken_withoutBlanks text⟩,
      fun c hc => ?_⟩
    rw [hmem c hc]
    exact hunreserved c hc

/-- A tag whose name stops at a slash is no tag of an element. -/
lemma read?_eq_none_of_slash {name : String} (hname : IsName name) (rest : String) :
    read? ("<" ++ name ++ "/" ++ rest) = none := by
  have htext : ("<" ++ name ++ "/" ++ rest).toList =
      ['<'] ++ (name.toList ++ '/' :: rest.toList) := by
    simp
  have hread : readName (name.toList ++ '/' :: rest.toList) = (name, '/' :: rest.toList) := by
    refine readName_append hname fun c hc => ?_
    cases hc
    decide
  have hattributes : readAttributes ('/' :: rest.toList) = ([], '/' :: rest.toList) := by
    rw [readAttributes]
    simp
  have hvoid : ('/' :: rest.toList).dropPrefix? [' ', '/', '>'] = none := rfl
  have hopen : ('/' :: rest.toList).dropPrefix? ['>'] = none := rfl
  rw [read?, htext, List.length_append, List.length_singleton, Nat.add_comm, readElement,
    dropPrefix?_append]
  simp only [Option.bind_eq_bind, Option.bind_some, hread, hattributes, hvoid, hopen,
    Option.bind_none, ite_self]

end Markup

/-! ### The element of an instance -/

namespace Component

def displayName (component : Component) : String :=
  component.setName?.getD component.name

lemma name_of_attribute? {property : String × String} {attr : Attribute}
    (h : attribute? property = some attr) :
    attr.name = Text.withoutBlanks property.1 ∧ attr.name ≠ "" := by
  unfold attribute? at h
  dsimp only at h
  split at h
  · cases h
  · rename_i hkept
    cases h
    exact ⟨rfl, fun hempty => hkept (.inl hempty)⟩

lemma exists_property {component : Component} {attr : Attribute}
    (h : attr ∈ component.attributes) :
    ∃ property ∈ component.properties,
      attr.name = Text.withoutBlanks property.1 ∧ attr.name ≠ "" := by
  obtain ⟨property, hproperty, hattr⟩ := List.mem_filterMap.mp h
  exact ⟨property, hproperty, name_of_attribute? hattr⟩

/-- The element is all attributes, so that nothing is left out of its normal form. -/
lemma normal_element (component : Component) (userTag? : Option String) :
    (Fragment.element (component.element userTag?) [] {}).normal =
      .element (component.element userTag?) [] {} := by
  have hshown : (component.element userTag?).shown = component.element userTag? := by
    simp [Element.shown, Element.allAttributes, element]
  cases hvoid : (component.element userTag?).isVoid with
  | true => rw [Fragment.normal_of_isVoid hvoid, hshown]
  | false => rw [Fragment.normal_of_not_isVoid hvoid, hshown, List.map_nil]

lemma read?_render_element {component : Component} {userTag? : Option String}
    (htag : Markup.IsName (component.element userTag?).tag)
    (hattributes : ∀ attr ∈ component.attributes, Markup.IsName attr.name) :
    Markup.read? ((Fragment.element (component.element userTag?) [] {}).render "") =
      some (.element (component.element userTag?) [] {}) := by
  have hplain : (Fragment.element (component.element userTag?) [] {}).IsPlain :=
    .element htag hattributes (by simp)
  rw [Markup.read?_render hplain, normal_element]

end Component

namespace Context

variable {context : Context} {node : Node} {component : Component}

lemma compileIn_instance (parent? : Option Parent) (hrole : Role.of node = .componentInstance)
    (hfound : context.resources.components[node.layer.id]? = some component) :
    context.compileIn parent? node =
      .ok (.around (.element (component.element (context.userTag? node.layer)) [] {}) []) := by
  have hgenerate : context.generate node parent? =
      .ok (.element (component.element (context.userTag? node.layer)) [] {}) := by
    simp only [generate, hrole, instanceFragment, hfound]
  exact compileIn_of_hidden (by rw [hrole]; rfl) hgenerate

/-- An instance whose component is known compiles to an element with the name of the component or
its variant set, less the blanks. Its attributes are named after properties in the same way, and no
attribute is without a name. Such a name is valid unless nothing is left of it or it has a reserved
character, and where all names are valid the markup reads back as that element. -/
theorem compileIn_instance_names (parent? : Option Parent)
    (hrole : Role.of node = .componentInstance) (huser : context.userTag? node.layer = none)
    (hfound : context.resources.components[node.layer.id]? = some component) :
    let head := component.element none
    ∃ output, context.compileIn parent? node = .ok output ∧
      output.markup = (Fragment.element head [] {}).render "" ∧
      head.tag = Text.withoutBlanks component.displayName ∧
      Text.Unbroken head.tag ∧
      (Markup.IsValidName head.tag ↔
        (∃ c ∈ component.displayName.toList, Text.isBlank c = false) ∧
          ∀ c ∈ Markup.reserved, c ∉ component.displayName.toList) ∧
      (∀ attr ∈ head.attributes, Text.IsWord attr.name ∧
        ∃ property ∈ component.properties, attr.name = Text.withoutBlanks property.1 ∧
          (Markup.IsValidName attr.name ↔ ∀ c ∈ Markup.reserved, c ∉ property.1.toList)) ∧
      (Markup.IsValidName head.tag → (∀ attr ∈ head.attributes, Markup.IsValidName attr.name) →
        Markup.read? output.markup = some (.element head [] {})) := by
  intro head
  have hcompile := compileIn_instance parent? hrole hfound
  rw [huser] at hcompile
  refine ⟨_, hcompile, rfl, rfl, Text.unbroken_withoutBlanks _,
    Markup.isValidName_withoutBlanks_iff, fun attr hattr => ?_, fun htag hattributes => ?_⟩
  · obtain ⟨property, hproperty, hname, hne⟩ := Component.exists_property hattr
    have hunbroken : Text.Unbroken attr.name := by
      rw [hname]
      exact Text.unbroken_withoutBlanks property.1
    refine ⟨⟨hne, hunbroken⟩, property, hproperty, hname, ?_⟩
    rw [hname] at hne ⊢
    rw [Markup.isValidName_withoutBlanks_iff,
      and_iff_right (Markup.withoutBlanks_ne_empty_iff.mp hne)]
  · exact Component.read?_render_element htag.isName fun attr hattr => (hattributes attr hattr).isName

end Context

/-! ### Entries of a menu -/

def menuItem : Node :=
  .mk { id := "item", name := "Item Copy", kind := .componentInstance } []

def menuContext (component : Component) : Context where
  resources := { components := .ofList [("item", component)] }
  settings := {}

def menuComponent : Component where
  name := "Menu Item"
  properties := [("Has Icon", "True"), ("Label", "\"Open\" <now>"), ("Muted", "FALSE")]

def menuElement : Element where
  tag := "MenuItem"
  attributes := [⟨"HasIcon", .present⟩, ⟨"Label", .text "\"Open\" <now>"⟩]

theorem compileIn_instance_names_menuItem :
    Role.of menuItem = .componentInstance ∧
    (menuContext menuComponent).userTag? menuItem.layer = none ∧
    (menuContext menuComponent).resources.components[menuItem.layer.id]? = some menuComponent ∧
    menuComponent.element none = menuElement ∧
    ∃ output, (menuContext menuComponent).compileIn none menuItem = .ok output ∧
      output.markup = "<MenuItem HasIcon Label=\"&quot;Open&quot; &lt;now&gt;\"></MenuItem>" ∧
      Markup.read? output.markup = some (.element menuElement [] {}) := by
  have hrole : Role.of menuItem = .componentInstance := by decide +kernel
  have huser : (menuContext menuComponent).userTag? menuItem.layer = none := by decide +kernel
  have hfound : (menuContext menuComponent).resources.components[menuItem.layer.id]? =
      some menuComponent := by
    decide +kernel
  have hhead : menuComponent.element none = menuElement := by decide +kernel
  obtain ⟨output, hcompile, hmarkup, -, -, -, -, hread⟩ :=
    Context.compileIn_instance_names none hrole huser hfound
  rw [hhead] at hmarkup hread
  have hrender : (Fragment.element menuElement [] {}).render "" =
      "<MenuItem HasIcon Label=\"&quot;Open&quot; &lt;now&gt;\"></MenuItem>" := by
    decide +kernel
  exact ⟨hrole, huser, hfound, hhead, output, hcompile, hmarkup.trans hrender,
    hread (by decide) (by decide)⟩

/-- A component that is kept in a folder. -/
def folderComponent : Component where
  name := "Menu/Item"

theorem folderComponent_breaks_tag :
    Role.of menuItem = .componentInstance ∧
    (menuContext folderComponent).userTag? menuItem.layer = none ∧
    (menuContext folderComponent).resources.components[menuItem.layer.id]? =
      some folderComponent ∧
    (menuContext folderComponent).compileIn none menuItem =
      .ok { markup := "<Menu/Item></Menu/Item>" } ∧
    ¬Markup.IsValidName (folderComponent.element none).tag ∧
    Markup.read? "<Menu/Item></Menu/Item>" = none := by
  refine ⟨by decide +kernel, by decide +kernel, by decide +kernel, by decide +kernel,
    by decide, ?_⟩
  have hname : Markup.IsName "Menu" := by decide
  exact Markup.read?_eq_none_of_slash hname "Item></Menu/Item>"

end UtilityMarkup
