import UtilityMarkup.Proofs.AssetOrder

/-!
# Deliveries

What a node adds by itself to the colors, the pictures and the stylesheet of a document. It does not
depend on the node around it, nor on its tag or its classes.
-/

namespace UtilityMarkup

lemma Role.exists_picture {node : Node}
    (h : Role.of node = .picture ∨ Role.of node = .pictureContainer) :
    ∃ paint, node.layer.picture? = some paint := by
  rw [← Option.isSome_iff_exists]
  by_contra hnone
  cases hkind : node.layer.kind <;>
    simp [Role.of, Role.ofFrame, Kind.isShape, hkind, hnone] at h
  split at h <;> simp at h

@[ext] structure Delivery where
  colors : List NamedColor := []
  pictures : List PictureAsset := []
  sheet : String := ""

namespace Fragment

def delivery (fragment : Fragment) : Delivery :=
  ⟨fragment.assets.colors, fragment.assets.pictures, fragment.sheet⟩

lemma delivery_raw (markup : String) (own : Assets) :
    (raw markup own).delivery = ⟨own.colors, own.pictures, ""⟩ := rfl

lemma delivery_element (head : Element) (nested : List Fragment) (own : Assets) :
    (element head nested own).delivery =
      ⟨nested.flatMap (·.assets.colors) ++ own.colors,
        nested.flatMap (·.assets.pictures) ++ own.pictures, head.sheet⟩ := by
  rw [delivery, assets, Assets.colors_append, Assets.pictures_append, colors_assetsOf,
    pictures_assetsOf, sheet]

lemma delivery_element_nil (head : Element) (own : Assets) :
    (element head [] own).delivery = ⟨own.colors, own.pictures, head.sheet⟩ :=
  delivery_element head [] own

end Fragment

namespace Context

/-- The part of the delivery that comes from the fills of a layer. -/
def fillDelivery (context : Context) (layer : Layer) (fills : List Paint) : Delivery where
  colors := context.boundColors fills
  sheet := (context.fillStyling layer fills).sheet

/-- The colors of text runs, which only come with several runs. -/
def runColors (context : Context) (runs : List TextRun) : List NamedColor :=
  if 1 < runs.length then runs.flatMap fun run => (context.run run).colors else []

def delivery (context : Context) (node : Node) : Delivery :=
  let layer := node.layer
  let pictures := (layer.picture?.map (context.pictureAsset layer)).toList
  match Role.of node with
  | .shape => { colors := context.boundColors layer.fills }
  | .icon => { colors := context.iconColors node }
  | .picture => { pictures := pictures }
  | .pictureContainer => { context.fillDelivery layer layer.fills with pictures := pictures }
  | .container | .component => context.fillDelivery layer layer.fills
  | .text =>
    let own := context.fillDelivery layer layer.textFills
    { own with colors := context.runColors layer.runs ++ own.colors }
  | .componentInstance | .other => {}

variable {context : Context} {node : Node} {parent? : Option Parent} {fragment : Fragment}

lemma delivery_containerFragment (tag : String) :
    (context.containerFragment node parent? tag).delivery =
      context.fillDelivery node.layer node.layer.fills := by
  simp [containerFragment, Fragment.delivery_element_nil, styled, container, fillDelivery]

lemma delivery_pictureContainerFragment {paint : PicturePaint}
    (hpicture : node.layer.picture? = some paint) (tag : String) :
    (context.pictureContainerFragment node parent? tag).delivery =
      { context.fillDelivery node.layer node.layer.fills with
        pictures := [context.pictureAsset node.layer paint] } := by
  simp [pictureContainerFragment, hpicture, Fragment.delivery_element_nil, styled, pictureContainer,
    container, fillDelivery]

lemma delivery_textFragment (layer : Layer) (tag : String) :
    (context.textFragment layer tag).delivery =
      { context.fillDelivery layer layer.textFills with
        colors := context.runColors layer.runs ++ context.boundColors layer.textFills } := by
  by_cases hruns : 1 < layer.runs.length
  · have hnested (run : TextRun) :
        (context.runFragment run).assets = { colors := (context.run run).colors } := by
      simp [runFragment, Fragment.assets, Fragment.assetsOf]
    simp [textFragment, hruns, Fragment.delivery_element, runColors, List.flatMap_map, hnested,
      styled, text, fillDelivery]
  · simp [textFragment, hruns, Fragment.delivery_element_nil, runColors, styled, text, fillDelivery]

lemma delivery_instanceFragment {layer : Layer}
    (h : context.instanceFragment layer = .ok fragment) :
    fragment.delivery = {} := by
  rw [instanceFragment] at h
  split at h
  · cases h
    simp [Fragment.delivery_element_nil, Component.element]
  · cases h

/-- The fragment of a node carries its delivery. -/
theorem delivery_of_generate (h : context.generate node parent? = .ok fragment) :
    fragment.delivery = context.delivery node := by
  cases hrole : Role.of node <;> simp only [generate, hrole, Except.ok.injEq] at h <;>
    simp only [delivery, hrole]
  case shape | icon =>
    obtain ⟨markup, -, hfragment⟩ := bind_eq_ok_iff.mp h
    cases hfragment
    simp [Fragment.delivery_raw, icon]
  case picture =>
    obtain ⟨paint, hpicture⟩ := Role.exists_picture (.inl hrole)
    simp [← h, pictureFragment, hpicture, Fragment.delivery_element_nil]
  case pictureContainer =>
    obtain ⟨paint, hpicture⟩ := Role.exists_picture (.inr hrole)
    simp [← h, delivery_pictureContainerFragment hpicture, hpicture]
  case container | component => rw [← h, delivery_containerFragment]
  case componentInstance => exact delivery_instanceFragment h
  case text => simp [← h, delivery_textFragment, fillDelivery]
  case other => simp [← h, Fragment.delivery_element_nil]

/-- A document that compiles has what its visited nodes deliver, from the leaves up. -/
theorem compile_deliveries {root : Node} {output : Output} (h : context.compile root = .ok output) :
    let deliveries := root.asRoot.postorder.map fun visit => context.delivery visit.node
    output.assets.colors = deliveries.flatMap (·.colors) ∧
    output.assets.pictures = deliveries.flatMap (·.pictures) ∧
    output.stylesheet = joinBlocks (deliveries.map (·.sheet)) := by
  intro deliveries
  have hroot : context.compileAt root.asRoot = .ok output := h
  have hdeliveries : deliveries = (context.fragments root.asRoot).map (·.delivery) :=
    (map_eq_of_map_eq_ok (compileAt_fragments hroot)
      fun _ _ _ hfragment => delivery_of_generate hfragment).symm
  rw [hdeliveries, compileAt_assets hroot, compileAt_stylesheet hroot, Fragment.colors_assetsOf,
    Fragment.pictures_assetsOf, List.flatMap_map, List.flatMap_map, List.map_map]
  exact ⟨rfl, rfl, rfl⟩

end Context

end UtilityMarkup
