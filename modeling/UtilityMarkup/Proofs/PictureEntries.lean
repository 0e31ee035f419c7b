import UtilityMarkup.Proofs.AssetOrder
import UtilityMarkup.Proofs.Deliveries

/-!
# Picture entries

The pictures that are delivered with a document are those of the visited nodes that show one, from
the leaves up. Each has a single entry, with the path that the element of the node refers to.
-/

namespace UtilityMarkup

/-! ### Which picture a layer shows -/

namespace Layer

/-- The handle of the first picture among the fills that has one. -/
def firstHandle? (layer : Layer) : Option String :=
  layer.fills.findSome? fun fill => fill.picture?.bind (·.handle?)

lemma firstHandle?_eq (layer : Layer) : layer.firstHandle? = layer.picture?.bind (·.handle?) := by
  rw [firstHandle?, picture?]
  induction layer.fills with
  | nil => rfl
  | cons fill fills ih =>
    cases fill with
    | solid paint => exact ih
    | gradient paint => exact ih
    | picture paint =>
      rcases paint with ⟨_ | handle, scaling⟩
      · exact ih
      · rfl

lemma handle?_of_picture? {layer : Layer} {paint : PicturePaint}
    (h : layer.picture? = some paint) : paint.handle? = layer.firstHandle? := by
  rw [firstHandle?_eq, h, Option.bind_some]

lemma exists_firstHandle? {layer : Layer} {paint : PicturePaint}
    (h : layer.picture? = some paint) : ∃ handle, layer.firstHandle? = some handle := by
  have hsome : paint.handle?.isSome = true := by
    rw [picture?] at h
    simpa using List.find?_some h
  rw [← handle?_of_picture? h, ← Option.isSome_iff_exists]
  exact hsome

end Layer

/-! ### References to pictures -/

/-- The class that puts a picture behind the content of an element. -/
def backdropClass (path : String) : String :=
  "bg-[url(" ++ path ++ ")]"

lemma toList_backdropClass (path : String) :
    (backdropClass path).toList = "bg-[url(".toList ++ path.toList ++ ")]".toList := by
  rw [backdropClass, String.toList_append, String.toList_append]

lemma trim_backdropClass (path : String) : Text.trim (backdropClass path) = backdropClass path := by
  rw [Text.trim_eq_self_iff, toList_backdropClass]
  constructor
  · intro c hc
    obtain rfl : 'b' = c := by simpa using hc
    rfl
  · intro c hc
    rw [List.getLast?_append] at hc
    obtain rfl : ']' = c := by simpa using hc
    rfl

namespace Role

def showsPicture : Role → Bool
  | picture | pictureContainer => true
  | _ => false

lemma showsPicture_iff {role : Role} :
    role.showsPicture = true ↔ role = picture ∨ role = pictureContainer := by
  cases role <;> simp [showsPicture]

end Role

/-- How an element refers to the picture at a path: an image by its source, and a container with a
picture behind its content by one of its classes. -/
def Element.RefersTo (head : Element) (path : String) : Role → Prop
  | .picture => head.attributes = [⟨"src", .text path⟩]
  | .pictureContainer =>
    ∃ classes : Classes, head.className = classes.text ∧ backdropClass path ∈ classes.entries
  | _ => False

namespace Context

/-- The asset records the picture of a visited node. -/
structure Records (context : Context) (visit : Visit) (asset : PictureAsset) : Prop where
  name : asset.name = visit.node.layer.name
  handle : visit.node.layer.firstHandle? = some asset.handle
  dataUri : asset.dataUri ≠ "" ↔ asset.handle ∈ context.resources.pictures
  reference : ∃ head own, context.generateAt visit = .ok (.element head [] own) ∧
    own.pictures = [asset] ∧ head.RefersTo asset.path (Role.of visit.node)

variable {context : Context} {node : Node} {parent? : Option Parent} {paint : PicturePaint}

lemma dataUri_ne_empty_iff {layer : Layer} {handle : String} (h : paint.handle? = some handle) :
    (context.pictureAsset layer paint).dataUri ≠ "" ↔ handle ∈ context.resources.pictures := by
  rw [← Std.ExtTreeMap.isSome_getElem?_iff_mem, pictureAsset, h, Option.bind_some]
  cases context.resources.pictures[handle]? with
  | none => simp
  | some bytes => simp

lemma backdropClass_mem_pictureContainer (scaling : Scaling) (path : String) :
    backdropClass path ∈ (context.pictureContainer node parent? scaling path).classes.entries := by
  have hentry : backdropClass path ∈ (Classes.ofList [backdropClass path]).entries := by
    have hne : backdropClass path ≠ "" := by simp [backdropClass]
    simp [trim_backdropClass, hne]
  unfold pictureContainer
  rw [Classes.entries_append, ← List.singleton_append, Classes.ofList_append,
    Classes.entries_append]
  exact List.mem_append_right _ (List.mem_append_left _ hentry)

-- For any styling, so that the classes of a container are never unfolded to compare them.
lemma className_styled (tag : String) (styling : Styling) :
    (styled tag styling).className = styling.classes.text := rfl

lemma generateAt_refers {visit : Visit} (hrole : (Role.of visit.node).showsPicture = true)
    (hpicture : visit.node.layer.picture? = some paint) :
    ∃ head own, context.generateAt visit = .ok (.element head [] own) ∧
      own.pictures = [context.pictureAsset visit.node.layer paint] ∧
      head.RefersTo (context.picturePath visit.node.layer) (Role.of visit.node) := by
  rcases Role.showsPicture_iff.mp hrole with hof | hof
  · simp only [generateAt, generate, hof, pictureFragment, hpicture]
    exact ⟨_, _, rfl, rfl, rfl⟩
  · simp only [generateAt, generate, hof, pictureContainerFragment, hpicture]
    exact ⟨_, _, rfl, rfl, _, className_styled _ _,
      backdropClass_mem_pictureContainer paint.scaling (context.picturePath visit.node.layer)⟩

/-- A node that shows a picture delivers that one and no other. -/
lemma records_of_generateAt {visit : Visit} {fragment : Fragment}
    (h : context.generateAt visit = .ok fragment)
    (hrole : (Role.of visit.node).showsPicture = true) :
    ∃ asset, fragment.assets.pictures = [asset] ∧ context.Records visit asset := by
  obtain ⟨paint, hpicture⟩ := Role.exists_picture (Role.showsPicture_iff.mp hrole)
  obtain ⟨handle, hhandle⟩ := Layer.exists_firstHandle? hpicture
  have hpaint : paint.handle? = some handle := (Layer.handle?_of_picture? hpicture).trans hhandle
  have hasset : (context.pictureAsset visit.node.layer paint).handle = handle := by
    rw [pictureAsset, hpaint, Option.getD_some]
  obtain ⟨head, own, hgenerate, hown, hrefers⟩ := generateAt_refers hrole hpicture
  obtain rfl : .element head [] own = fragment := Except.ok.inj (hgenerate.symm.trans h)
  refine ⟨context.pictureAsset visit.node.layer paint, ?_, rfl, ?_, ?_, head, own, h, hown,
    hrefers⟩
  · rw [Fragment.assets, Fragment.assetsOf, Assets.empty_append, hown]
  · rw [hhandle, hasset]
  · rw [hasset]
    exact dataUri_ne_empty_iff hpaint

lemma pictures_eq_nil_of_generateAt {visit : Visit} {fragment : Fragment}
    (h : context.generateAt visit = .ok fragment)
    (hrole : (Role.of visit.node).showsPicture = false) :
    fragment.assets.pictures = [] := by
  have hdelivery : fragment.assets.pictures = (context.delivery visit.node).pictures :=
    congrArg Delivery.pictures (delivery_of_generate h)
  rw [hdelivery, delivery]
  cases hof : Role.of visit.node with
  | picture | pictureContainer =>
    rw [hof] at hrole
    cases hrole
  | _ => rfl

/-- The pictures of a document that compiles are, one for one and from the leaves up, those of the
visited nodes that show a picture. Each has the handle of the first fill with one, is inline exactly
when its bytes are at hand, and has the path that the element of its node refers to. -/
theorem compile_pictures {root : Node} {output : Output} (h : context.compile root = .ok output) :
    (∀ visit, visit ∈ root.asRoot.postorder ↔ Visited root.asRoot visit) ∧
    List.Forall₂ context.Records
      (root.asRoot.postorder.filter fun visit => (Role.of visit.node).showsPicture)
      output.assets.pictures := by
  have hroot : context.compileAt root.asRoot = .ok output := h
  refine ⟨fun visit => Visited.iff_mem_postorder.symm, ?_⟩
  rw [compileAt_assets hroot, Fragment.pictures_assetsOf]
  exact forall₂_filter_flatMap (compileAt_fragments hroot)
    (fun _ _ hgenerate hrole => records_of_generateAt hgenerate hrole)
    (fun _ _ hgenerate hrole => pictures_eq_nil_of_generateAt hgenerate hrole)

end Context

/-! ### A gallery with a leaf -/

def leaf : Node :=
  .mk { id := "leaf", name := "Maple Leaf", kind := .frame
        fills := [.picture ⟨some "leaf", .fit⟩] } []

/-- The bytes of the paper are at hand, those of the leaf are not. -/
def gallery : Node :=
  .mk { id := "gallery", name := "Leaf Gallery", kind := .frame
        fills := [.picture ⟨none, .fill⟩, .picture ⟨some "paper", .tile⟩] } [leaf]

def galleryContext : Context where
  resources := { pictures := .ofList [("paper", ([104, 105] : List UInt8))] }
  settings := { pictures := { directory := "art/", fileType := "JPG" } }

def galleryOutput : Output where
  markup := "<div class=\"bg-[url(art/LeafGallery.JPG)] bg-repeat bg-center\">\n" ++
    "<img src=\"art/MapleLeaf.JPG\" class=\"object-contain\" />\n</div>"
  assets := { pictures :=
    [⟨"Maple Leaf", "leaf", "art/MapleLeaf.JPG", ""⟩,
      ⟨"Leaf Gallery", "paper", "art/LeafGallery.JPG", "data:image/jpeg;base64,aGk="⟩] }
  stylesheet := ""

lemma compile_gallery : galleryContext.compile gallery = .ok galleryOutput := by
  decide +kernel

theorem compile_pictures_gallery :
    galleryContext.compile gallery = .ok galleryOutput ∧
    (∀ visit, visit ∈ gallery.asRoot.postorder ↔ Visited gallery.asRoot visit) ∧
    List.Forall₂ galleryContext.Records
      [⟨some gallery.layer.asParent, leaf⟩, gallery.asRoot] galleryOutput.assets.pictures :=
  ⟨compile_gallery, Context.compile_pictures compile_gallery⟩

end UtilityMarkup
