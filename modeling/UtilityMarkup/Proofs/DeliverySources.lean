import UtilityMarkup.Proofs.Deliveries
import UtilityMarkup.Proofs.FirstFailure
import UtilityMarkup.Proofs.Observations

/-!
# Sources of deliveries

What each part of a delivery is made from: the colors from the design variables, the stylesheet from
the backgrounds, and the pictures from the picture bytes and paths. Two contexts that have the
sources of a part in common, and lack the same, deliver that part alike for every document.
-/

namespace UtilityMarkup

namespace Context

/-- The settings name the class of a paint; its color comes from the resources alone. -/
lemma color?_solid (context : Context) (paint : SolidPaint) (stem : Option String) :
    (context.solid paint stem).color? =
      (context.boundColor? paint).map fun bound => ⟨variableToken bound.1, bound.2.hex⟩ := by
  rw [solid]
  cases context.boundColor? paint <;> rfl

section Sources

variable {context context' : Context}

/-! ### Colors -/

section Colors

variable (h : context.resources.designVariables = context'.resources.designVariables)
include h

lemma boundColor?_congr (paint : SolidPaint) :
    context.boundColor? paint = context'.boundColor? paint := by
  have hcolor : context.resources.color? = context'.resources.color? := by
    funext id
    rw [Resources.color?, Resources.color?, h]
  rw [boundColor?, boundColor?, hcolor]

lemma boundColors_congr (paints : List Paint) :
    context.boundColors paints = context'.boundColors paints := by
  simp only [boundColors, color?_solid, boundColor?_congr h]

lemma iconColors_congr (node : Node) : context.iconColors node = context'.iconColors node := by
  induction node using Node.induction with
  | mk layer children ih =>
    rw [iconColors, iconColors, iconColorsOf_eq_flatMap, iconColorsOf_eq_flatMap,
      List.flatMap_congr ih, boundColors_congr h]

lemma runColors_congr (runs : List TextRun) : context.runColors runs = context'.runColors runs := by
  have hrun (run : TextRun) : (context.run run).colors = (context'.run run).colors := by
    simp only [Context.run, List.filterMap_map, Function.comp_def, color?_solid, boundColor?_congr h]
  simp only [runColors, hrun]

lemma delivery_colors_congr (node : Node) :
    (context.delivery node).colors = (context'.delivery node).colors := by
  cases hrole : Role.of node <;>
    simp only [delivery, hrole, fillDelivery, boundColors_congr h, iconColors_congr h,
      runColors_congr h]

end Colors

/-! ### Stylesheet -/

lemma fillStyling_sheet_congr (h : context.resources.backgrounds = context'.resources.backgrounds)
    (layer : Layer) (fills : List Paint) :
    (context.fillStyling layer fills).sheet = (context'.fillStyling layer fills).sheet := by
  have hbackground : context.background? layer = context'.background? layer := by
    rw [background?, background?, h]
  simp only [fillStyling]
  cases Backdrop.ofFills fills <;> simp only [registered, hbackground]

lemma delivery_sheet_congr (h : context.resources.backgrounds = context'.resources.backgrounds)
    (node : Node) : (context.delivery node).sheet = (context'.delivery node).sheet := by
  cases hrole : Role.of node <;>
    simp only [delivery, hrole, fillDelivery, fillStyling_sheet_congr h]

/-! ### Pictures -/

lemma delivery_pictures_congr (h : context.resources.pictures = context'.resources.pictures)
    (hpaths : context.settings.pictures = context'.settings.pictures) (node : Node) :
    (context.delivery node).pictures = (context'.delivery node).pictures := by
  have hasset : context.pictureAsset node.layer = context'.pictureAsset node.layer := by
    funext paint
    simp only [pictureAsset, picturePath, h, hpaths]
  cases hrole : Role.of node <;> simp only [delivery, hrole, fillDelivery, hasset]

end Sources

/-! ### Observations of deliveries -/

/-- What is observed of a fragment is observed of the delivery of its node. -/
lemma map_generateAt {δ : Type} {ofFragment : Fragment → δ} {observe : Delivery → δ}
    (hobserve : ∀ fragment, ofFragment fragment = observe fragment.delivery) (context : Context)
    (visit : Visit) :
    (context.generateAt visit).map ofFragment =
      if context.resources.lacks visit.node then .error visit.node.failure
      else .ok (observe (context.delivery visit.node)) := by
  have herror := context.errorOf?_generate visit.node visit.parent?
  rw [generateAt]
  cases hgenerate : context.generate visit.node visit.parent? with
  | error failure =>
    rw [hgenerate] at herror
    obtain ⟨hlacks, rfl⟩ := lacking_eq_some_iff.mp herror.symm
    rw [if_pos hlacks]
    rfl
  | ok fragment =>
    have hlacks : ¬context.resources.lacks visit.node := by
      intro h
      rw [hgenerate, if_pos h] at herror
      cases herror
    rw [if_neg hlacks, ← delivery_of_generate hgenerate, ← hobserve]
    rfl

/-- Contexts that lack the same, and in which every node delivers the same to an observation, give
it the same of every document. -/
theorem compile_congr_of_delivery {γ δ : Type} {context context' : Context}
    (observation : Observation γ δ) (observe : Delivery → δ)
    (hobserve : ∀ fragment, observation.ofFragment fragment = observe fragment.delivery)
    (hlacks : ∀ node, context.resources.lacks node = context'.resources.lacks node)
    (hdelivery : ∀ node, observe (context.delivery node) = observe (context'.delivery node))
    (root : Node) :
    (context.compile root).map observation.ofOutput =
      (context'.compile root).map observation.ofOutput := by
  refine observation.compileAt_congr (fun visit => ?_) root.asRoot
  rw [map_generateAt hobserve, map_generateAt hobserve, hlacks, hdelivery]

end Context

end UtilityMarkup
