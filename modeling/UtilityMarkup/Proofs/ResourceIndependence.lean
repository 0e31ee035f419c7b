import UtilityMarkup.Proofs.AssetOrder
import UtilityMarkup.Proofs.DeliverySources

/-!
# Independence of resources

How far each kind of resource reaches into the output of a document. The bytes of pictures show
nowhere but as inline data. Backgrounds keep out of the pictures and the colors, design variables out
of the pictures and the stylesheet, and the text of drawings shows in the markup alone.
-/

namespace UtilityMarkup

def PictureAsset.withoutData (asset : PictureAsset) : PictureAsset :=
  { asset with dataUri := "" }

/-- The output up to the inline data of its pictures. -/
def Output.withoutData (output : Output) : Output :=
  { output with
    assets := { output.assets with pictures := output.assets.pictures.map (·.withoutData) } }

namespace Observation

def picturesWithoutData : Observation (List PictureAsset) (List PictureAsset) where
  ofOutput output := output.assets.pictures.map (·.withoutData)
  ofFragment fragment := fragment.assets.pictures.map (·.withoutData)
  combine own inside := inside.flatten ++ own
  ofOutput_around fragment inside := by
    rw [Output.pictures_around, List.map_append, List.map_flatMap, List.flatMap_def]

/-- All that there is to an output but the inline data of its pictures. -/
def allWithoutData :
    Observation (String × List PictureAsset × List NamedColor × String)
      ((String → String) × List PictureAsset × List NamedColor × String) :=
  markup.prod (picturesWithoutData.prod (colors.prod stylesheet))

end Observation

/-- Two compilations fail alike, or a part of their outputs is the same. -/
def AgreeOn {α : Type} (part : Output → α) (result result' : Except Failure Output) : Prop :=
  (∃ failure, result = .error failure ∧ result' = .error failure) ∨
    ∃ output output', result = .ok output ∧ result' = .ok output' ∧ part output = part output'

lemma agreeOn_iff {α : Type} {part : Output → α} {result result' : Except Failure Output} :
    AgreeOn part result result' ↔ result.map part = result'.map part :=
  map_eq_map_iff.symm

namespace Context

section Resources

variable (resources : Resources) (settings : Settings)

/-! ### Picture bytes -/

section Pictures

variable (pictures : Std.ExtTreeMap String (List UInt8))

lemma iconFragment_pictures (node : Node) (parent? : Option Parent) :
    iconFragment ⟨{ resources with pictures }, settings⟩ node parent? =
      iconFragment ⟨resources, settings⟩ node parent? := by
  have hcolors : iconColors ⟨{ resources with pictures }, settings⟩ node =
      iconColors ⟨resources, settings⟩ node :=
    iconColors_congr (by rfl) node
  simp only [iconFragment, icon, hcolors]
  rfl

/-- The bytes of its picture have no part in the fragment of a node but as inline data. -/
lemma map_generate_pictures (node : Node) (parent? : Option Parent) :
    (generate ⟨{ resources with pictures }, settings⟩ node parent?).map
        Observation.allWithoutData.ofFragment =
      (generate ⟨resources, settings⟩ node parent?).map
        Observation.allWithoutData.ofFragment := by
  cases hrole : Role.of node <;> simp only [generate, hrole]
  case icon => rw [iconFragment_pictures]
  case picture =>
    simp only [pictureFragment]
    cases node.layer.picture? <;> rfl
  case pictureContainer =>
    simp only [pictureContainerFragment]
    cases node.layer.picture? <;> rfl
  all_goals rfl

lemma compile_pictures_agree (root : Node) :
    AgreeOn Output.withoutData (compile ⟨{ resources with pictures }, settings⟩ root)
      (compile ⟨resources, settings⟩ root) := by
  have hview := Observation.allWithoutData.compileAt_congr
    (fun visit => map_generate_pictures resources settings pictures visit.node visit.parent?)
    root.asRoot
  exact agreeOn_iff.mpr <| map_comp_eq_of_map_eq hview fun view =>
    (⟨view.1, ⟨view.2.1, view.2.2.1⟩, view.2.2.2⟩ : Output)

end Pictures

/-! ### Backgrounds, design variables and drawings -/

lemma compile_backgrounds_agree (backgrounds : Std.ExtTreeMap String String) (root : Node) :
    AgreeOn (fun output => (output.assets.pictures, output.assets.colors))
      (compile ⟨{ resources with backgrounds }, settings⟩ root)
      (compile ⟨resources, settings⟩ root) := by
  refine agreeOn_iff.mpr <| compile_congr_of_delivery (Observation.pictures.prod .colors)
    (fun delivery => (delivery.pictures, delivery.colors)) (fun _ => rfl) (fun _ => by rfl)
    (fun node => ?_) root
  exact Prod.ext (delivery_pictures_congr (by rfl) (by rfl) node)
    (delivery_colors_congr (by rfl) node)

lemma compile_designVariables_agree (designVariables : Std.ExtTreeMap String Variable)
    (root : Node) :
    AgreeOn (fun output => (output.assets.pictures, output.stylesheet))
      (compile ⟨{ resources with designVariables }, settings⟩ root)
      (compile ⟨resources, settings⟩ root) := by
  refine agreeOn_iff.mpr <| compile_congr_of_delivery (Observation.pictures.prod .stylesheet)
    (fun delivery => (delivery.pictures, delivery.sheet)) (fun _ => rfl) (fun _ => by rfl)
    (fun node => ?_) root
  exact Prod.ext (delivery_pictures_congr (by rfl) (by rfl) node)
    (delivery_sheet_congr (by rfl) node)

lemma lacks_drawings {drawings : Std.ExtTreeMap String String}
    (hids : ∀ id, id ∈ drawings ↔ id ∈ resources.drawings) (node : Node) :
    Resources.lacks { resources with drawings } node = resources.lacks node := by
  have hsome (id : String) : drawings[id]?.isSome = resources.drawings[id]?.isSome := by
    rw [Bool.eq_iff_iff, Std.ExtTreeMap.isSome_getElem?_iff_mem,
      Std.ExtTreeMap.isSome_getElem?_iff_mem, hids]
  have hnone (id : String) : drawings[id]?.isNone = resources.drawings[id]?.isNone := by
    rw [← Option.not_isSome, ← Option.not_isSome, hsome]
  simp only [Resources.lacks, hnone]

lemma compile_drawings_agree {drawings : Std.ExtTreeMap String String}
    (hids : ∀ id, id ∈ drawings ↔ id ∈ resources.drawings) (root : Node) :
    AgreeOn (fun output => (output.assets, output.stylesheet))
      (compile ⟨{ resources with drawings }, settings⟩ root)
      (compile ⟨resources, settings⟩ root) := by
  have hdelivery (node : Node) : delivery ⟨{ resources with drawings }, settings⟩ node =
      delivery ⟨resources, settings⟩ node :=
    Delivery.ext (delivery_colors_congr (by rfl) node)
      (delivery_pictures_congr (by rfl) (by rfl) node) (delivery_sheet_congr (by rfl) node)
  let view := Observation.pictures.prod (.prod .colors .stylesheet)
  have hview : (compile ⟨{ resources with drawings }, settings⟩ root).map view.ofOutput =
      (compile ⟨resources, settings⟩ root).map view.ofOutput :=
    compile_congr_of_delivery view
      (fun delivery => (delivery.pictures, delivery.colors, delivery.sheet)) (fun _ => rfl)
      (lacks_drawings resources hids) (fun node => by rw [hdelivery]) root
  exact agreeOn_iff.mpr <| map_comp_eq_of_map_eq hview fun parts =>
    ((⟨parts.1, parts.2.1⟩ : Assets), parts.2.2)

/-- How far each kind of resource reaches. Contexts that differ in picture bytes alone fail alike or
have outputs that differ in inline data alone. Contexts that differ in backgrounds alone fail alike
or agree in pictures and colors, those that differ in design variables alone in pictures and
stylesheet, and those that differ in what the drawings of the same layers look like in all but the
markup. -/
theorem compile_resource_reach (root : Node) :
    (∀ pictures, AgreeOn Output.withoutData
      (compile ⟨{ resources with pictures }, settings⟩ root)
      (compile ⟨resources, settings⟩ root)) ∧
    (∀ backgrounds, AgreeOn (fun output => (output.assets.pictures, output.assets.colors))
      (compile ⟨{ resources with backgrounds }, settings⟩ root)
      (compile ⟨resources, settings⟩ root)) ∧
    (∀ designVariables, AgreeOn (fun output => (output.assets.pictures, output.stylesheet))
      (compile ⟨{ resources with designVariables }, settings⟩ root)
      (compile ⟨resources, settings⟩ root)) ∧
    ∀ drawings, (∀ id, id ∈ drawings ↔ id ∈ resources.drawings) →
      AgreeOn (fun output => (output.assets, output.stylesheet))
        (compile ⟨{ resources with drawings }, settings⟩ root)
        (compile ⟨resources, settings⟩ root) :=
  ⟨fun pictures => compile_pictures_agree resources settings pictures root,
    fun backgrounds => compile_backgrounds_agree resources settings backgrounds root,
    fun designVariables => compile_designVariables_agree resources settings designVariables root,
    fun _ hids => compile_drawings_agree resources settings hids root⟩

end Resources

end Context

/-! ### The card page with another icon -/

def otherDrawings : Std.ExtTreeMap String String :=
  .ofList [("icon", "<svg><path/></svg>")]

lemma mem_otherDrawings_iff (id : String) :
    id ∈ otherDrawings ↔ id ∈ cardResources.drawings := by
  simp [otherDrawings, cardResources]

theorem compile_resource_reach_cardPage :
    (∀ id, id ∈ otherDrawings ↔ id ∈ cardResources.drawings) ∧
    Context.compile ⟨cardResources, {}⟩ cardPage = .ok cardOutput ∧
    ∃ output,
      Context.compile ⟨{ cardResources with drawings := otherDrawings }, {}⟩ cardPage =
        .ok output ∧
      (output.assets, output.stylesheet) = (cardOutput.assets, cardOutput.stylesheet) := by
  refine ⟨mem_otherDrawings_iff, compile_cardPage, ?_⟩
  have hagree := (Context.compile_resource_reach cardResources {} cardPage).2.2.2 otherDrawings
    mem_otherDrawings_iff
  rw [compile_cardPage] at hagree
  rcases hagree with ⟨failure, -, hfailure⟩ | ⟨output, output', houtput, houtput', hsame⟩
  · cases hfailure
  · cases houtput'
    exact ⟨output, houtput, hsame⟩

end UtilityMarkup
