import UtilityMarkup.Proofs.FillClasses
import UtilityMarkup.Proofs.PictureEntries

/-!
# Background utilities

A background that classes cannot express is registered as a utility in the stylesheet. The
registration and the class that uses it go together: a node has a block of its own exactly when its
fills need a utility and the application has their background, and then the name of the utility is
among its classes.
-/

namespace UtilityMarkup

/-- The application has this background for the layer, and it is not blank. -/
def Resources.HasBackground (resources : Resources) (layer : Layer) (background : String) : Prop :=
  ∃ css, resources.backgrounds[layer.id]? = some css ∧ Text.trim css = background ∧ background ≠ ""

namespace Role

def showsBackground : Role → Bool
  | pictureContainer | container | component | text => true
  | shape | icon | picture | componentInstance | other => false

end Role

/-- The fills that a node shows behind its content or through its glyphs. -/
def Node.backgroundFills (node : Node) : List Paint :=
  if Role.of node = .text then node.layer.textFills else node.layer.fills

namespace Context

variable {context : Context} {layer : Layer} {fills : List Paint}

lemma background?_eq_some_iff {background : String} :
    context.background? layer = some background ↔
      context.resources.HasBackground layer background := by
  simp only [background?, Resources.HasBackground, Option.filter_eq_some_iff,
    Option.map_eq_some_iff, decide_eq_true_eq]
  constructor
  · rintro ⟨⟨css, hcss, htrim⟩, hne⟩
    exact ⟨css, hcss, htrim, hne⟩
  · rintro ⟨css, hcss, htrim, hne⟩
    exact ⟨⟨css, hcss, htrim⟩, hne⟩

/-! ### Fills that need a utility -/

lemma fillStyling_of_needsUtility (context : Context) (layer : Layer) (h : NeedsUtility fills) :
    ∃ onText, context.fillStyling layer fills =
      context.registered layer (layer.backgroundName fills) onText := by
  rcases h with hseveral | ⟨gradient, rfl, hcomplex⟩
  · match fills, hseveral with
    | first :: second :: others, _ =>
      exact ⟨[clipToText], by simp [fillStyling, Backdrop.ofFills, Layer.backgroundName]⟩
  · exact ⟨["w-fit", clipToText],
      by simp [fillStyling, Backdrop.ofFills, hcomplex, Layer.backgroundName]⟩

lemma fillStyling_of_hasBackground {background : String} (hneeds : NeedsUtility fills)
    (hbackground : context.resources.HasBackground layer background) :
    (context.fillStyling layer fills).sheet =
        utilityBlock (layer.backgroundName fills) background ∧
      layer.backgroundName fills ∈ (context.fillStyling layer fills).classes.entries := by
  obtain ⟨onText, hstyling⟩ := fillStyling_of_needsUtility context layer hneeds
  rw [hstyling, registered, background?_eq_some_iff.mpr hbackground]
  exact ⟨rfl, Classes.mem_entries_ofList_of_isWord
    (Layer.isWord_of_isBackgroundName (layer.isBackgroundName_backgroundName fills)) (by simp)⟩

lemma fillStyling_of_no_background (hneeds : NeedsUtility fills)
    (hbackground : ¬∃ background, context.resources.HasBackground layer background) :
    context.fillStyling layer fills = { classes := .empty } := by
  obtain ⟨onText, hstyling⟩ := fillStyling_of_needsUtility context layer hneeds
  have hnone : context.background? layer = none := by
    rw [Option.eq_none_iff_forall_ne_some]
    exact fun background h => hbackground ⟨background, background?_eq_some_iff.mp h⟩
  rw [hstyling, registered, hnone]

/-! ### Nodes with a background -/

lemma exists_container (context : Context) (node : Node) (parent? : Option Parent) :
    ∃ before after : Classes, (context.container node parent?).classes =
        before ++ (context.fillStyling node.layer node.layer.fills).classes ++ after :=
  ⟨_, _, rfl⟩

lemma exists_pictureContainer (context : Context) (node : Node) (parent? : Option Parent)
    (scaling : Scaling) (path : String) :
    ∃ before after : Classes, (context.pictureContainer node parent? scaling path).classes =
        before ++ (context.fillStyling node.layer node.layer.fills).classes ++ after := by
  obtain ⟨before, after, hclasses⟩ := context.exists_container node parent?
  simp only [pictureContainer, hclasses]
  exact ⟨before, _, Classes.append_assoc _ _ _⟩

/-- A node that shows its background is an element, and has the classes of its fills among others. -/
lemma generateAt_of_showsBackground (context : Context) {visit : Visit}
    (hshows : (Role.of visit.node).showsBackground = true) :
    ∃ head nested own before after,
      context.generateAt visit = .ok (.element head nested own) ∧
      head.className = (before ++
        (context.fillStyling visit.node.layer visit.node.backgroundFills).classes ++ after).text := by
  cases hrole : Role.of visit.node with
  | shape | icon | picture | componentInstance | other =>
    rw [hrole] at hshows
    cases hshows
  | container | component =>
    obtain ⟨before, after, hclasses⟩ := context.exists_container visit.node visit.parent?
    simp only [generateAt, generate, hrole, containerFragment, Node.backgroundFills, reduceCtorEq,
      if_false]
    exact ⟨_, _, _, before, after, rfl, by rw [className_styled, hclasses]⟩
  | pictureContainer =>
    obtain ⟨paint, hpicture⟩ := Role.exists_picture (.inr hrole)
    obtain ⟨before, after, hclasses⟩ := context.exists_pictureContainer visit.node visit.parent?
      paint.scaling (context.picturePath visit.node.layer)
    simp only [generateAt, generate, hrole, pictureContainerFragment, hpicture,
      Node.backgroundFills, reduceCtorEq, if_false]
    exact ⟨_, _, _, before, after, rfl, by rw [className_styled, hclasses]⟩
  | text =>
    simp only [generateAt, generate, hrole, Node.backgroundFills, if_true]
    have hclasses : (context.text visit.node.layer).classes =
        context.textTypography visit.node.layer ++
          (context.fillStyling visit.node.layer visit.node.layer.textFills).classes ++ .empty :=
      (Classes.append_empty _).symm
    unfold textFragment
    dsimp only
    split
    · exact ⟨_, _, _, _, _, rfl, by rw [className_styled, hclasses]⟩
    · exact ⟨_, _, _, _, _, rfl, by rw [← hclasses]; rfl⟩

lemma delivery_sheet_of_showsBackground {node : Node}
    (hshows : (Role.of node).showsBackground = true) :
    (context.delivery node).sheet =
      (context.fillStyling node.layer node.backgroundFills).sheet := by
  cases hrole : Role.of node with
  | shape | icon | picture | componentInstance | other =>
    rw [hrole] at hshows
    cases hshows
  | _ => simp [delivery, fillDelivery, Node.backgroundFills, hrole]

/-! ### Registration -/

/-- The fills that the node shows need a utility, and the application has their background. -/
def Registers (context : Context) (node : Node) (background : String) : Prop :=
  NeedsUtility node.backgroundFills ∧ context.resources.HasBackground node.layer background

/-- Without a utility, the fills of a node have no block, and no class of theirs looks like a
utility of the node unless it belongs to a color with a name that makes it look so. -/
lemma fillStyling_of_not_registers {node : Node}
    (h : ¬∃ background, context.Registers node background) :
    (context.fillStyling node.layer node.backgroundFills).sheet = "" ∧
      ∀ entry ∈ (context.fillStyling node.layer node.backgroundFills).classes.entries,
        ∀ name ∈ Text.words entry, node.layer.IsBackgroundName name →
          ∃ colorName text, context.NamesColor node.backgroundFills colorName ∧
            IsNamedClass colorName text ∧ entry = Text.trim text := by
  by_cases hneeds : NeedsUtility node.backgroundFills
  · rw [fillStyling_of_no_background hneeds fun ⟨background, hbackground⟩ =>
      h ⟨background, hneeds, hbackground⟩]
    exact ⟨rfl, nofun⟩
  · obtain ⟨hsheet, hclasses⟩ := context.fillStyling_of_not_needsUtility node.layer hneeds
    refine ⟨hsheet, fun entry hentry name hname hutility => ?_⟩
    obtain ⟨text, htext, rfl⟩ := hclasses entry hentry
    obtain ⟨colorName, hcolor, hclass⟩ := exists_namesColor htext hname hutility
    exact ⟨colorName, text, hcolor, hclass, rfl⟩

end Context

def inkSettings : Settings := { imported? := some (.ofPairs [("#000000", "ink_bg")]) }

end UtilityMarkup
