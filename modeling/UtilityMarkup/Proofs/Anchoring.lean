import UtilityMarkup.Proofs.ClassSources
import UtilityMarkup.Proofs.CompoundClasses

/-!
# Anchoring

A layer that is taken out of the flow of a known parent has an entry for each axis, also at distance
zero, and a parent of such a layer is one that the layer can be anchored to. The words `absolute`
and `relative` are told apart from all other entries by being no compounds.
-/

namespace UtilityMarkup

/-! ### Entries of anchors -/

lemma trim_middle :
    Text.trim "left-0 right-0 mx-auto" = "left-0 right-0 mx-auto" ∧
      Text.trim "top-0 bottom-0 my-auto" = "top-0 bottom-0 my-auto" := by
  decide +kernel

namespace Vocabulary

/-- What stands for a distance from a side. Zero is spelled out. -/
inductive OffsetEntry (vocabulary : Vocabulary) (side : String) (distance : Float) : String → Prop
  | zero (h : (distance == 0) = true) : OffsetEntry vocabulary side distance (side ++ "-0")
  | number {negative : Bool} {value : String} (h : (distance == 0) = false)
      (hspells : vocabulary.Spells .spacing distance negative value) :
    OffsetEntry vocabulary side distance
      (Number.signText negative ++ side ++ "-" ++ Text.trimEnd value)

/-- What stands for an anchor along an axis: the entry for the middle, or a distance from the side
at the far or at the near end. -/
inductive AnchorEntry (vocabulary : Vocabulary) (middle far near : String) : Anchor → String → Prop
  | middle : AnchorEntry vocabulary middle far near .middle middle
  | far {distance : Float} {entry : String} (h : vocabulary.OffsetEntry far distance entry) :
    AnchorEntry vocabulary middle far near (.far distance) entry
  | near {distance : Float} {entry : String} (h : vocabulary.OffsetEntry near distance entry) :
    AnchorEntry vocabulary middle far near (.near distance) entry

def HorizontalEntry (vocabulary : Vocabulary) : Anchor → String → Prop :=
  vocabulary.AnchorEntry "left-0 right-0 mx-auto" "right" "left"

def VerticalEntry (vocabulary : Vocabulary) : Anchor → String → Prop :=
  vocabulary.AnchorEntry "top-0 bottom-0 my-auto" "bottom" "top"

variable {vocabulary : Vocabulary}

lemma isCompound_offset (vocabulary : Vocabulary) (side : String) (distance : Float) :
    IsCompound (vocabulary.offset side distance) := by
  unfold offset
  split
  · exact .inr (.inr (.inl (by simp)))
  · exact vocabulary.isCompound_number .spacing side distance

lemma offsetEntry_trim_offset (vocabulary : Vocabulary) {side : String} (hside : Text.IsWord side)
    (distance : Float) :
    vocabulary.OffsetEntry side distance (Text.trim (vocabulary.offset side distance)) := by
  cases hzero : distance == 0 with
  | true =>
    have hword : Text.IsWord (side ++ "-0") := ⟨by simp, hside.unbroken.append (by decide)⟩
    rw [offset, if_pos hzero, hword.trim_eq]
    exact .zero hzero
  | false =>
    obtain ⟨negative, value, hspells⟩ := exists_spells vocabulary .spacing hzero
    rw [offset, if_neg (by simp [hzero]), hspells side,
      Text.trim_append (Number.isWord_sign_append negative hside)]
    exact .number hzero hspells

/-- The text of an anchor, given that of the middle and the sides. -/
def anchorText (vocabulary : Vocabulary) (middle far near : String) : Anchor → String
  | .middle => middle
  | .far distance => vocabulary.offset far distance
  | .near distance => vocabulary.offset near distance

lemma horizontalAnchor_eq (vocabulary : Vocabulary) (anchor : Anchor) :
    vocabulary.horizontalAnchor anchor =
      vocabulary.anchorText "left-0 right-0 mx-auto" "right" "left" anchor := by
  cases anchor <;> rfl

lemma verticalAnchor_eq (vocabulary : Vocabulary) (anchor : Anchor) :
    vocabulary.verticalAnchor anchor =
      vocabulary.anchorText "top-0 bottom-0 my-auto" "bottom" "top" anchor := by
  cases anchor <;> rfl

section Anchors

variable {middle far near : String}

lemma isCompound_anchorText (vocabulary : Vocabulary) (h : IsCompound middle) (far near : String)
    (anchor : Anchor) : IsCompound (vocabulary.anchorText middle far near anchor) := by
  cases anchor with
  | middle => exact h
  | far distance => exact vocabulary.isCompound_offset far distance
  | near distance => exact vocabulary.isCompound_offset near distance

lemma anchorEntry_trim_anchorText (vocabulary : Vocabulary) (hmiddle : Text.trim middle = middle)
    (hfar : Text.IsWord far) (hnear : Text.IsWord near) (anchor : Anchor) :
    vocabulary.AnchorEntry middle far near anchor
      (Text.trim (vocabulary.anchorText middle far near anchor)) := by
  cases anchor with
  | middle =>
    rw [anchorText, hmiddle]
    exact .middle
  | far distance => exact .far (vocabulary.offsetEntry_trim_offset hfar distance)
  | near distance => exact .near (vocabulary.offsetEntry_trim_offset hnear distance)

end Anchors

lemma isCompound_horizontalAnchor (vocabulary : Vocabulary) (anchor : Anchor) :
    IsCompound (vocabulary.horizontalAnchor anchor) := by
  rw [horizontalAnchor_eq]
  exact vocabulary.isCompound_anchorText (by decide) _ _ anchor

lemma isCompound_verticalAnchor (vocabulary : Vocabulary) (anchor : Anchor) :
    IsCompound (vocabulary.verticalAnchor anchor) := by
  rw [verticalAnchor_eq]
  exact vocabulary.isCompound_anchorText (by decide) _ _ anchor

lemma horizontalEntry_trim (vocabulary : Vocabulary) (anchor : Anchor) :
    vocabulary.HorizontalEntry anchor (Text.trim (vocabulary.horizontalAnchor anchor)) := by
  rw [horizontalAnchor_eq]
  exact vocabulary.anchorEntry_trim_anchorText trim_middle.1 ⟨by decide, by decide⟩
    ⟨by decide, by decide⟩ anchor

lemma verticalEntry_trim (vocabulary : Vocabulary) (anchor : Anchor) :
    vocabulary.VerticalEntry anchor (Text.trim (vocabulary.verticalAnchor anchor)) := by
  rw [verticalAnchor_eq]
  exact vocabulary.anchorEntry_trim_anchorText trim_middle.2 ⟨by decide, by decide⟩
    ⟨by decide, by decide⟩ anchor

lemma OffsetEntry.ne_empty {side entry : String} {distance : Float}
    (h : vocabulary.OffsetEntry side distance entry) : entry ≠ "" := by
  cases h <;> simp

lemma AnchorEntry.ne_empty {middle far near entry : String} {anchor : Anchor}
    (hmiddle : middle ≠ "") (h : vocabulary.AnchorEntry middle far near anchor entry) :
    entry ≠ "" := by
  cases h with
  | middle => exact hmiddle
  | far h | near h => exact h.ne_empty

lemma entries_placement (vocabulary : Vocabulary) (horizontal vertical : Anchor) :
    (Classes.ofList (vocabulary.placement (.absolute (some (horizontal, vertical))))).entries =
      ["absolute", Text.trim (vocabulary.horizontalAnchor horizontal),
        Text.trim (vocabulary.verticalAnchor vertical)] := by
  have habsolute : Text.trim "absolute" = "absolute" := by decide
  have hhorizontal := (vocabulary.horizontalEntry_trim horizontal).ne_empty (by decide)
  have hvertical := (vocabulary.verticalEntry_trim vertical).ne_empty (by decide)
  rw [placement, Classes.entries_ofList_of_trim_ne_empty]
  · simp only [List.map_cons, List.map_nil, habsolute]
  · simp only [List.forall_mem_cons, habsolute]
    exact ⟨by decide, hhorizontal, hvertical, by simp⟩

end Vocabulary

/-! ### Places of layers -/

lemma Placement.of_isAbsolute {node : Node} (h : node.layer.layout.isAbsolute = true)
    (parent : Parent) :
    Placement.of node (some parent) = .absolute (some
      (.along node.layer.box.x node.layer.box.width parent.width node.layer.layout.horizontalPin,
        .along node.layer.box.y node.layer.box.height parent.height
          node.layer.layout.verticalPin)) := by
  simp [Placement.of, h]

namespace Context

variable {context : Context} {node : Node} {parent? : Option Parent}

/-- The entries of a box are those of its rotation and of its placement, and then compound ones. -/
lemma exists_box_entries (context : Context) (node : Node) (parent? : Option Parent) :
    ∀ classes ∈ [(context.container node parent?).classes, context.pictureBox node parent?],
      ∃ rest : Classes, classes = .ofList [context.vocabulary.rotation node.layer] ++
          .ofList (context.vocabulary.placement (.of node parent?)) ++ rest ∧
        ∀ entry ∈ rest.entries, IsCompound entry := by
  have hsize := context.vocabulary.isCompound_size node.layer parent?
  have hitem := isCompound_flexItem node.layer.layout parent?
  have hclips : IsCompound (if node.layer.clipsContent then "overflow-hidden" else "") := by
    split <;> decide
  have hborder := context.isCompound_border node.layer
  have hradius := context.vocabulary.isCompound_cornerRadius node.layer.cornerRadius
  rw [List.forall_mem_cons, List.forall_mem_singleton]
  constructor
  · refine ⟨.ofList (context.vocabulary.size node.layer parent? ++
        context.vocabulary.padding node.layer.layout ++
        [flexItem node.layer.layout parent?,
          if node.layer.clipsContent then "overflow-hidden" else ""] ++
        context.vocabulary.flexContainer node.layer.layout) ++
      (context.fillStyling node.layer node.layer.fills).classes ++
      .ofList (context.border node.layer ++
        context.vocabulary.cornerRadius node.layer.cornerRadius), ?_, ?_⟩
    · rw [container, Classes.ofList_cons]
      simp only [Classes.ofList_append, Classes.append_assoc]
    · rw [Classes.entries_append, Classes.entries_append, List.forall_mem_append,
        List.forall_mem_append]
      refine ⟨⟨IsCompound.of_mem_ofList ?_, context.isCompound_fillStyling _ _⟩,
        IsCompound.of_mem_ofList ?_⟩
      · simp only [List.forall_mem_append, List.forall_mem_cons]
        exact ⟨⟨⟨hsize, context.vocabulary.isCompound_padding _⟩, hitem, hclips, by simp⟩,
          context.vocabulary.isCompound_flexContainer _⟩
      · exact List.forall_mem_append.mpr ⟨hborder, hradius⟩
  · refine ⟨.ofList (context.vocabulary.size node.layer parent? ++
      [flexItem node.layer.layout parent?] ++ context.border node.layer ++
      context.vocabulary.cornerRadius node.layer.cornerRadius), ?_, IsCompound.of_mem_ofList ?_⟩
    · rw [pictureBox, Classes.ofList_cons]
      simp only [Classes.ofList_append, Classes.append_assoc]
    · simp only [List.forall_mem_append, List.forall_mem_singleton]
      exact ⟨⟨⟨hsize, hitem⟩, hborder⟩, hradius⟩

/-- Whatever is taken out of the flow of a known parent has its anchors right behind `absolute`. -/
lemma exists_anchor_entries (context : Context) {node : Node} {parent : Parent}
    (h : node.layer.layout.isAbsolute = true) :
    ∃ horizontal vertical,
      (Classes.ofList (context.vocabulary.placement (.of node (some parent)))).entries =
        ["absolute", horizontal, vertical] ∧
      context.vocabulary.HorizontalEntry (.along node.layer.box.x node.layer.box.width
        parent.width node.layer.layout.horizontalPin) horizontal ∧
      context.vocabulary.VerticalEntry (.along node.layer.box.y node.layer.box.height
        parent.height node.layer.layout.verticalPin) vertical ∧
      IsCompound horizontal ∧ IsCompound vertical := by
  rw [Placement.of_isAbsolute h, Vocabulary.entries_placement]
  exact ⟨_, _, rfl, context.vocabulary.horizontalEntry_trim _,
    context.vocabulary.verticalEntry_trim _,
    (context.vocabulary.isCompound_horizontalAnchor _).trim,
    (context.vocabulary.isCompound_verticalAnchor _).trim⟩

/-- The box of a layer with such a placement has its entries behind those of the rotation. -/
lemma box_of_anchors (context : Context) (node : Node) (parent? : Option Parent)
    {horizontal vertical : String}
    (hplacement : (Classes.ofList (context.vocabulary.placement (.of node parent?))).entries =
      ["absolute", horizontal, vertical])
    (hcompound : IsCompound horizontal ∧ IsCompound vertical) :
    ∀ classes ∈ [(context.container node parent?).classes, context.pictureBox node parent?],
      (∃ rest, classes.entries =
        (Classes.ofList [context.vocabulary.rotation node.layer]).entries ++
          "absolute" :: horizontal :: vertical :: rest) ∧
      "relative" ∉ classes.entries := by
  intro classes hclasses
  obtain ⟨rest, hbox, hrest⟩ := context.exists_box_entries node parent? classes hclasses
  have hentries : classes.entries =
      (Classes.ofList [context.vocabulary.rotation node.layer]).entries ++
        "absolute" :: horizontal :: vertical :: rest.entries := by
    rw [hbox, Classes.entries_append, Classes.entries_append, hplacement, List.append_assoc]
    rfl
  have hrotation := IsCompound.of_mem_ofList <| List.forall_mem_singleton.mpr <|
    context.vocabulary.isCompound_number .rotation "rotate"
      (Number.round (-node.layer.box.rotation))
  refine ⟨⟨rest.entries, hentries⟩, fun hrelative => ?_⟩
  have hapart : ¬IsCompound "relative" := by decide
  simp only [hentries, List.mem_append, List.mem_cons] at hrelative
  rcases hrelative with hrelative | hrelative | hrelative | hrelative | hrelative
  · exact hapart (hrotation _ hrelative)
  · exact absurd hrelative (by decide)
  · exact hapart (hrelative ▸ hcompound.1)
  · exact hapart (hrelative ▸ hcompound.2)
  · exact hapart (hrest _ hrelative)

end Context

namespace Vocabulary

/-- A layer with an absolute child is placed absolutely itself, or else relative. -/
lemma exists_word_mem_placement (vocabulary : Vocabulary) {node child : Node}
    (hchild : child ∈ node.children) (habsolute : child.layer.layout.isAbsolute = true)
    (parent? : Option Parent) :
    ∃ word ∈ ["relative", "absolute"], word ∈ vocabulary.placement (.of node parent?) := by
  have hanchors : node.hasAbsoluteChild = true := List.any_eq_true.mpr ⟨child, hchild, habsolute⟩
  cases hplaced : node.layer.layout.isAbsolute with
  | true =>
    refine ⟨"absolute", by simp, ?_⟩
    cases parent? <;> simp [Placement.of, placement, hplaced]
  | false => exact ⟨"relative", by simp, by simp [Placement.of, placement, hplaced, hanchors]⟩

end Vocabulary

namespace Context

lemma exists_anchor_word (context : Context) {node child : Node} (hchild : child ∈ node.children)
    (habsolute : child.layer.layout.isAbsolute = true) (parent? : Option Parent)
    {classes : Classes}
    (h : (context.container node parent?).classes.entries ⊆ classes.entries) :
    ∃ word ∈ ["relative", "absolute"], word ∈ Text.words classes.text := by
  obtain ⟨word, hword, hmem⟩ :=
    context.vocabulary.exists_word_mem_placement hchild habsolute parent?
  have hisWord : Text.IsWord word := by
    rcases List.mem_pair.mp hword with rfl | rfl <;> exact ⟨by decide, by decide⟩
  obtain ⟨rest, hclasses, -⟩ := context.exists_box_entries node parent? _ List.mem_cons_self
  rw [hclasses, Classes.entries_append, Classes.entries_append] at h
  have hplacement := Classes.mem_entries_ofList_of_isWord hisWord hmem
  exact ⟨word, hword, Classes.mem_words_text hisWord
    (h (List.mem_append_left _ (List.mem_append_right _ hplacement)))⟩

lemma entries_container_subset (context : Context) (node : Node) (parent? : Option Parent)
    (scaling : Scaling) (path : String) :
    (context.container node parent?).classes.entries ⊆
      (context.pictureContainer node parent? scaling path).classes.entries := by
  unfold pictureContainer
  rw [Classes.entries_append]
  exact List.subset_append_left _ _

lemma exists_className_of_child (context : Context) {visit : Visit} {child : Node}
    (hrole : Role.of visit.node ∈ [.container, .component, .pictureContainer])
    (hchild : child ∈ visit.node.children) (habsolute : child.layer.layout.isAbsolute = true) :
    ∃ fragment className, context.generateAt visit = .ok fragment ∧
      fragment.className? = some className ∧
      ∃ word ∈ ["relative", "absolute"], word ∈ Text.words className := by
  have hcontainer := context.exists_anchor_word hchild habsolute visit.parent?
    (List.Subset.refl (context.container visit.node visit.parent?).classes.entries)
  simp only [List.mem_cons, List.not_mem_nil, or_false] at hrole
  rcases hrole with hrole | hrole | hrole
  · simp only [generateAt, generate, hrole, containerFragment]
    exact ⟨_, _, rfl, congrArg some (className_styled _ _), hcontainer⟩
  · simp only [generateAt, generate, hrole, containerFragment]
    exact ⟨_, _, rfl, congrArg some (className_styled _ _), hcontainer⟩
  · obtain ⟨paint, hpicture⟩ := Role.exists_picture (.inr hrole)
    simp only [generateAt, generate, hrole, pictureContainerFragment, hpicture]
    exact ⟨_, _, rfl, congrArg some (className_styled _ _),
      context.exists_anchor_word hchild habsolute visit.parent?
        (context.entries_container_subset visit.node visit.parent? _ _)⟩

/-- In a known parent, the box of an absolute layer has one entry for each axis behind `absolute`,
and `relative` is not among its entries. Around an absolute layer, the element that is written for a
container, component or container with a picture has one of the words `relative` and `absolute`. -/
theorem absolute_anchored (context : Context) :
    (∀ (node : Node) (parent : Parent), node.layer.layout.isAbsolute = true →
      ∃ horizontal vertical,
        (Classes.ofList (context.vocabulary.placement (.of node (some parent)))).entries =
          ["absolute", horizontal, vertical] ∧
        context.vocabulary.HorizontalEntry (.along node.layer.box.x node.layer.box.width
          parent.width node.layer.layout.horizontalPin) horizontal ∧
        context.vocabulary.VerticalEntry (.along node.layer.box.y node.layer.box.height
          parent.height node.layer.layout.verticalPin) vertical ∧
        ∀ classes ∈
            [(context.container node (some parent)).classes, context.pictureBox node (some parent)],
          (∃ rest, classes.entries =
            (Classes.ofList [context.vocabulary.rotation node.layer]).entries ++
              "absolute" :: horizontal :: vertical :: rest) ∧
          "relative" ∉ classes.entries) ∧
    ∀ (visit : Visit) (child : Node),
      Role.of visit.node ∈ [.container, .component, .pictureContainer] →
      child ∈ visit.node.children → child.layer.layout.isAbsolute = true →
      ∃ fragment className, context.generateAt visit = .ok fragment ∧
        (∀ output, context.compileAt visit = .ok output →
          ∃ inside, output = .around fragment inside) ∧
        fragment.className? = some className ∧
        ∃ word ∈ ["relative", "absolute"], word ∈ Text.words className := by
  refine ⟨fun node parent habsolute => ?_, fun visit child hrole hchild habsolute => ?_⟩
  · obtain ⟨horizontal, vertical, hplacement, hhorizontal, hvertical, hcompound⟩ :=
      context.exists_anchor_entries habsolute
    exact ⟨horizontal, vertical, hplacement, hhorizontal, hvertical, fun classes hclasses =>
      context.box_of_anchors node (some parent) hplacement hcompound classes hclasses⟩
  · obtain ⟨fragment, className, hfragment, hword⟩ :=
      context.exists_className_of_child hrole hchild habsolute
    exact ⟨fragment, className, hfragment,
      fun output houtput => exists_around_of_compileAt hfragment houtput, hword⟩

end Context

/-! ### A sticker on a board -/

/-- It begins at the left edge of the board and hangs out over the lower one. -/
def sticker : Node :=
  .mk { id := "sticker", name := "Sticker", kind := .frame
        box := { y := 88, width := 16, height := 20, rotation := -90 }
        layout := { isAbsolute := true, verticalPin := .far } } []

def board : Node :=
  .mk { id := "board", name := "Board", kind := .frame
        box := { width := 200, height := 100 } } [sticker]

def boardContext : Context where
  resources := {}
  settings := { vocabulary := { Vocabulary.empty with spacing := .ofPairs [(8, "2")] } }

lemma placement_sticker : (Classes.ofList (boardContext.vocabulary.placement
    (.of sticker (some board.layer.asParent)))).entries = ["absolute", "left-0", "-bottom-2"] := by
  decide +kernel

theorem absolute_anchored_sticker :
    let classes := (boardContext.container sticker (some board.layer.asParent)).classes
    ["absolute", "left-0", "-bottom-2"] <:+: classes.entries ∧
    boardContext.vocabulary.HorizontalEntry (.along 0 16 200 .near) "left-0" ∧
    boardContext.vocabulary.VerticalEntry (.along 88 20 100 .far) "-bottom-2" ∧
    "relative" ∉ classes.entries ∧
    ∃ fragment className, boardContext.generateAt board.asRoot = .ok fragment ∧
      (∀ output, boardContext.compileAt board.asRoot = .ok output →
        ∃ inside, output = .around fragment inside) ∧
      fragment.className? = some className ∧
      ∃ word ∈ ["relative", "absolute"], word ∈ Text.words className := by
  intro classes
  obtain ⟨hentries, hanchored⟩ := boardContext.absolute_anchored
  obtain ⟨horizontal, vertical, hplacement, hhorizontal, hvertical, hboxes⟩ :=
    hentries sticker board.layer.asParent rfl
  have hsame := hplacement.symm.trans placement_sticker
  simp only [List.cons.injEq, and_true, true_and] at hsame
  obtain ⟨rfl, rfl⟩ := hsame
  obtain ⟨⟨rest, hclasses⟩, hrelative⟩ := hboxes classes List.mem_cons_self
  refine ⟨?_, hhorizontal, hvertical, hrelative,
    hanchored board.asRoot sticker List.mem_cons_self List.mem_cons_self rfl⟩
  rw [hclasses]
  exact ⟨_, rest, List.append_assoc _ _ _⟩

end UtilityMarkup
