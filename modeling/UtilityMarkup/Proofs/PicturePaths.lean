import Mathlib.Data.List.Induction
import UtilityMarkup.Proofs.PictureEntries

/-!
# Paths of pictures

Pictures are written to paths made from the names of their nodes, without blanks. So nodes whose
names differ in blanks alone share a path, and writing the pictures of a document keeps all of them
only if such nodes show the same picture.
-/

namespace UtilityMarkup

lemma PicturePaths.path_eq_iff (paths : PicturePaths) {name name' : String} :
    paths.path name = paths.path name' ↔ name = name' := by
  rw [path, path, String.append_left_inj, String.append_left_inj, String.append_right_inj]

/-! ### Writing pictures -/

/-- The handle of the picture at each path, after the pictures are written in their order. -/
def written (pictures : List PictureAsset) : String → Option String :=
  pictures.foldl (fun files asset => Function.update files asset.path (some asset.handle))
    fun _ => none

/-- Pictures with one path are one picture. -/
def PathsTellPictures (pictures : List PictureAsset) : Prop :=
  ∀ asset ∈ pictures, ∀ asset' ∈ pictures, asset.path = asset'.path → asset.handle = asset'.handle

lemma written_concat (pictures : List PictureAsset) (last : PictureAsset) :
    written (pictures ++ [last]) =
      Function.update (written pictures) last.path (some last.handle) := by
  rw [written, List.foldl_append]
  rfl

/-- No picture is overwritten by another exactly when the paths tell the pictures apart. -/
lemma pathsTellPictures_iff_written {pictures : List PictureAsset} :
    PathsTellPictures pictures ↔
      ∀ asset ∈ pictures, written pictures asset.path = some asset.handle := by
  constructor
  · intro htell
    induction pictures using List.reverseRecOn with
    | nil => simp
    | append_singleton pictures last ih =>
      intro asset hasset
      have hlast : last ∈ pictures ++ [last] := by simp
      rw [written_concat, Function.update_apply]
      split
      · rename_i hpath
        rw [htell asset hasset last hlast hpath]
      · rename_i hpath
        have hmem : asset ∈ pictures := by
          rcases List.mem_append.mp hasset with hmem | hmem
          · exact hmem
          · obtain rfl := List.mem_singleton.mp hmem
            simp at hpath
        refine ih (fun asset hasset asset' hasset' => ?_) asset hmem
        exact htell asset (List.mem_append_left _ hasset) asset' (List.mem_append_left _ hasset')
  · intro hwritten asset hasset asset' hasset' hpath
    have hfile := hwritten asset hasset
    rw [hpath, hwritten asset' hasset'] at hfile
    exact (Option.some.inj hfile).symm

namespace Context

/-! ### Pictures of nodes -/

/-- The picture that a node delivers. -/
def asset? (context : Context) (node : Node) : Option PictureAsset :=
  if (Role.of node).showsPicture then node.layer.picture?.map (context.pictureAsset node.layer)
  else none

variable {context : Context} {node : Node} {asset : PictureAsset}

lemma delivery_pictures (context : Context) (node : Node) :
    (context.delivery node).pictures = (context.asset? node).toList := by
  cases hrole : Role.of node <;> simp [delivery, asset?, hrole, Role.showsPicture, fillDelivery]

lemma asset?_eq_some_iff : context.asset? node = some asset ↔
    (Role.of node).showsPicture = true ∧
      ∃ paint, node.layer.picture? = some paint ∧ context.pictureAsset node.layer paint = asset := by
  simp [asset?]

lemma exists_asset? (context : Context) (h : (Role.of node).showsPicture = true) :
    ∃ asset, context.asset? node = some asset := by
  obtain ⟨paint, hpaint⟩ := Role.exists_picture (Role.showsPicture_iff.mp h)
  exact ⟨_, asset?_eq_some_iff.mpr ⟨h, paint, hpaint, rfl⟩⟩

lemma path_of_asset? (h : context.asset? node = some asset) :
    asset.path = context.settings.pictures.path (Text.withoutBlanks asset.name) := by
  obtain ⟨-, paint, -, rfl⟩ := asset?_eq_some_iff.mp h
  rfl

lemma name_of_asset? (h : context.asset? node = some asset) : asset.name = node.layer.name := by
  obtain ⟨-, paint, -, rfl⟩ := asset?_eq_some_iff.mp h
  rfl

lemma handle_of_asset? (h : context.asset? node = some asset) :
    node.layer.firstHandle? = some asset.handle := by
  obtain ⟨-, paint, hpaint, rfl⟩ := asset?_eq_some_iff.mp h
  obtain ⟨handle, hhandle⟩ := Layer.exists_firstHandle? hpaint
  rw [hhandle, pictureAsset, Layer.handle?_of_picture? hpaint, hhandle, Option.getD_some]

/-! ### Pictures of a document -/

lemma compile_pictures_eq {root : Node} {output : Output} (h : context.compile root = .ok output) :
    output.assets.pictures =
      root.asRoot.postorder.filterMap fun visit => context.asset? visit.node := by
  rw [(compile_deliveries h).2.1, List.flatMap_map, List.filterMap_eq_flatMap_toList]
  simp only [delivery_pictures]

variable {root node' : Node} {asset' : PictureAsset} {output : Output}

lemma mem_pictures_iff (h : context.compile root = .ok output) :
    asset ∈ output.assets.pictures ↔
      ∃ visit, Visited root.asRoot visit ∧ context.asset? visit.node = some asset := by
  simp only [compile_pictures_eq h, List.mem_filterMap, Visited.iff_mem_postorder]

lemma path_eq_iff (h : context.asset? node = some asset) (h' : context.asset? node' = some asset') :
    asset.path = asset'.path ↔ node.layer.compactName = node'.layer.compactName := by
  rw [path_of_asset? h, path_of_asset? h', PicturePaths.path_eq_iff, name_of_asset? h,
    name_of_asset? h', Layer.compactName, Layer.compactName]

lemma handle_eq_iff (h : context.asset? node = some asset)
    (h' : context.asset? node' = some asset') :
    asset.handle = asset'.handle ↔ node.layer.firstHandle? = node'.layer.firstHandle? := by
  rw [handle_of_asset? h, handle_of_asset? h', Option.some_inj]

lemma pathsTellPictures_iff (h : context.compile root = .ok output) :
    PathsTellPictures output.assets.pictures ↔
      ∀ visit visit', Visited root.asRoot visit → Visited root.asRoot visit' →
        (Role.of visit.node).showsPicture = true → (Role.of visit'.node).showsPicture = true →
        visit.node.layer.compactName = visit'.node.layer.compactName →
        visit.node.layer.firstHandle? = visit'.node.layer.firstHandle? := by
  constructor
  · intro htell visit visit' hvisit hvisit' hshows hshows' hnames
    obtain ⟨asset, hasset⟩ := context.exists_asset? hshows
    obtain ⟨asset', hasset'⟩ := context.exists_asset? hshows'
    refine (handle_eq_iff hasset hasset').mp (htell asset ?_ asset' ?_ ?_)
    · exact (mem_pictures_iff h).mpr ⟨visit, hvisit, hasset⟩
    · exact (mem_pictures_iff h).mpr ⟨visit', hvisit', hasset'⟩
    · exact (path_eq_iff hasset hasset').mpr hnames
  · intro hsame asset hmem asset' hmem' hpath
    obtain ⟨visit, hvisit, hasset⟩ := (mem_pictures_iff h).mp hmem
    obtain ⟨visit', hvisit', hasset'⟩ := (mem_pictures_iff h).mp hmem'
    refine (handle_eq_iff hasset hasset').mpr (hsame visit visit' hvisit hvisit' ?_ ?_ ?_)
    · exact (asset?_eq_some_iff.mp hasset).1
    · exact (asset?_eq_some_iff.mp hasset').1
    · exact (path_eq_iff hasset hasset').mp hpath

/-- The pictures of a document that compiles are those of its visited nodes that show one. Two of
them have one path exactly when their names agree without blanks. They can be written to their paths
without one overwriting another exactly when nodes whose names so agree show the same picture. -/
theorem compile_picture_paths (h : context.compile root = .ok output) :
    (∀ asset, asset ∈ output.assets.pictures ↔
      ∃ visit, Visited root.asRoot visit ∧ context.asset? visit.node = some asset) ∧
    (∀ asset ∈ output.assets.pictures, ∀ asset' ∈ output.assets.pictures,
      asset.path = asset'.path ↔
        Text.withoutBlanks asset.name = Text.withoutBlanks asset'.name) ∧
    (PathsTellPictures output.assets.pictures ↔
      ∀ visit visit', Visited root.asRoot visit → Visited root.asRoot visit' →
        (Role.of visit.node).showsPicture = true → (Role.of visit'.node).showsPicture = true →
        visit.node.layer.compactName = visit'.node.layer.compactName →
        visit.node.layer.firstHandle? = visit'.node.layer.firstHandle?) ∧
    (PathsTellPictures output.assets.pictures ↔
      ∀ asset ∈ output.assets.pictures,
        written output.assets.pictures asset.path = some asset.handle) := by
  refine ⟨fun _ => mem_pictures_iff h, fun asset hmem asset' hmem' => ?_, pathsTellPictures_iff h,
    pathsTellPictures_iff_written⟩
  obtain ⟨visit, -, hasset⟩ := (mem_pictures_iff h).mp hmem
  obtain ⟨visit', -, hasset'⟩ := (mem_pictures_iff h).mp hmem'
  rw [path_of_asset? hasset, path_of_asset? hasset', PicturePaths.path_eq_iff]

end Context

theorem compile_picture_paths_gallery :
    galleryContext.compile gallery = .ok galleryOutput ∧
    PathsTellPictures galleryOutput.assets.pictures ∧
    written galleryOutput.assets.pictures "art/MapleLeaf.JPG" = some "leaf" ∧
    ∀ visit visit', Visited gallery.asRoot visit → Visited gallery.asRoot visit' →
      (Role.of visit.node).showsPicture = true → (Role.of visit'.node).showsPicture = true →
      visit.node.layer.compactName = visit'.node.layer.compactName →
      visit.node.layer.firstHandle? = visit'.node.layer.firstHandle? := by
  obtain ⟨-, -, htell, hwritten⟩ := Context.compile_picture_paths compile_gallery
  have hpaths : PathsTellPictures galleryOutput.assets.pictures := by
    unfold galleryOutput PathsTellPictures
    dsimp only
    simp
  have hleaf : ⟨"Maple Leaf", "leaf", "art/MapleLeaf.JPG", ""⟩ ∈ galleryOutput.assets.pictures :=
    List.mem_cons_self
  exact ⟨compile_gallery, hpaths, hwritten.mp hpaths _ hleaf, htell.mp hpaths⟩

/-! ### Two leaves -/

def leafFrame (id name handle : String) : Node :=
  .mk { id := id, name := name, kind := .frame, fills := [.picture ⟨some handle, .fill⟩] } []

def twoLeaves : Node :=
  .mk { id := "page", name := "Page", kind := .frame }
    [leafFrame "first" "Leaf" "maple", leafFrame "second" "Le af" "oak"]

def twoLeavesOutput : Output where
  markup := "<div>\n<img src=\"/images/Leaf.png\" class=\"object-cover\" />\n" ++
    "<img src=\"/images/Leaf.png\" class=\"object-cover\" />\n</div>"
  assets := { pictures :=
    [⟨"Leaf", "maple", "/images/Leaf.png", ""⟩, ⟨"Le af", "oak", "/images/Leaf.png", ""⟩] }

theorem twoLeaves_share_path :
    Context.compile ⟨{}, {}⟩ twoLeaves = .ok twoLeavesOutput ∧
    (∃ leaf ∈ twoLeavesOutput.assets.pictures, ∃ other ∈ twoLeavesOutput.assets.pictures,
      leaf.path = other.path ∧ leaf.handle ≠ other.handle) ∧
    written twoLeavesOutput.assets.pictures "/images/Leaf.png" = some "oak" := by
  refine ⟨by decide +kernel, ⟨_, List.mem_cons_self, _, List.mem_cons_of_mem _ List.mem_cons_self,
    rfl, by decide⟩, rfl⟩

end UtilityMarkup
