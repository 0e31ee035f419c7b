import UtilityMarkup.Proofs.InkedDrawings

/-!
# Outer shapes

The colors of an icon come from the shapes in its tree that stand in no other shape of that tree.
Looking at every node together with the layers around it finds the same shapes, in the same order,
as the descent that stops at the first shape on each way down.
-/

namespace UtilityMarkup

/-- A node of a tree, with the layers around it from the inside out. -/
structure Standing where
  around : List Layer
  node : Node

namespace Standing

/-- A shape that stands in no other shape. -/
def IsOuterShape (standing : Standing) : Prop :=
  standing.node.layer.kind.isShape ∧ ∀ layer ∈ standing.around, ¬layer.kind.isShape

instance : DecidablePred IsOuterShape := fun standing =>
  inferInstanceAs (Decidable (_ ∧ ∀ layer ∈ standing.around, _))

end Standing

namespace Node

/-- A tree holds its root with nothing around it, and with each node the children of that node. -/
inductive Holds (root : Node) : Standing → Prop
  | root : Holds root ⟨[], root⟩
  | child {around : List Layer} {node child : Node} (hnode : Holds root ⟨around, node⟩)
      (hchild : child ∈ node.children) : Holds root ⟨node.layer :: around, child⟩

mutual

/-- All nodes of a tree in document order, shapes or not. -/
def standings (around : List Layer) : Node → List Standing
  | .mk layer children => ⟨around, .mk layer children⟩ :: standingsOf (layer :: around) children

def standingsOf (around : List Layer) : List Node → List Standing
  | [] => []
  | node :: nodes => standings around node ++ standingsOf around nodes

end

/-- The shapes of a tree that stand in no other shape of the tree, in document order. -/
def outerShapes (node : Node) : List Node :=
  ((node.standings []).filter (·.IsOuterShape)).map (·.node)

variable {around : List Layer}

lemma standingsOf_eq_flatMap (around : List Layer) (nodes : List Node) :
    standingsOf around nodes = nodes.flatMap (standings around) := by
  induction nodes with
  | nil => rfl
  | cons node nodes ih => rw [standingsOf, ih, List.flatMap_cons]

lemma mem_standings_iff {layer : Layer} {children : List Node} {standing : Standing} :
    standing ∈ (Node.mk layer children).standings around ↔
      standing = ⟨around, .mk layer children⟩ ∨
        ∃ child ∈ children, standing ∈ child.standings (layer :: around) := by
  rw [standings, standingsOf_eq_flatMap, List.mem_cons, List.mem_flatMap]

/-! ### What a tree holds -/

lemma Holds.of_mem_standings {root node : Node} (h : Holds root ⟨around, node⟩) :
    ∀ standing ∈ node.standings around, Holds root standing := by
  induction node using Node.induction generalizing around with
  | mk layer children ih =>
    intro standing hmem
    rcases mem_standings_iff.mp hmem with rfl | ⟨child, hchild, hmem⟩
    · exact h
    · exact ih child hchild (h.child hchild) standing hmem

lemma child_mem_standings {root child : Node} {standing : Standing}
    (hmem : standing ∈ root.standings around) (hchild : child ∈ standing.node.children) :
    ⟨standing.node.layer :: standing.around, child⟩ ∈ root.standings around := by
  induction root using Node.induction generalizing around with
  | mk layer children ih =>
    rcases mem_standings_iff.mp hmem with rfl | ⟨inner, hinner, hmem⟩
    · refine mem_standings_iff.mpr (.inr ⟨child, hchild, ?_⟩)
      obtain ⟨layer', children'⟩ := child
      exact mem_standings_iff.mpr (.inl rfl)
    · exact mem_standings_iff.mpr (.inr ⟨inner, hinner, ih inner hinner hmem⟩)

theorem holds_iff_mem_standings {root : Node} {standing : Standing} :
    Holds root standing ↔ standing ∈ root.standings [] := by
  constructor
  · intro h
    induction h with
    | root =>
      obtain ⟨layer, children⟩ := root
      exact mem_standings_iff.mpr (.inl rfl)
    | child _ hchild ih => exact child_mem_standings ih hchild
  · exact Holds.root.of_mem_standings standing

theorem mem_outerShapes_iff {root shape : Node} :
    shape ∈ root.outerShapes ↔ ∃ around, Holds root ⟨around, shape⟩ ∧
      shape.layer.kind.isShape ∧ ∀ layer ∈ around, ¬layer.kind.isShape := by
  simp only [outerShapes, List.mem_map, List.mem_filter, decide_eq_true_eq,
    ← holds_iff_mem_standings]
  constructor
  · rintro ⟨⟨around, node⟩, ⟨hholds, houter⟩, rfl⟩
    exact ⟨around, hholds, houter⟩
  · rintro ⟨around, hholds, houter⟩
    exact ⟨⟨around, shape⟩, ⟨hholds, houter⟩, rfl⟩

/-! ### The descent finds the outer shapes -/

lemma suffix_around_of_mem_standings {node : Node} :
    ∀ standing ∈ node.standings around, around <:+ standing.around := by
  induction node using Node.induction generalizing around with
  | mk layer children ih =>
    intro standing hmem
    rcases mem_standings_iff.mp hmem with rfl | ⟨child, hchild, hmem⟩
    · exact List.suffix_rfl
    · exact (List.suffix_cons layer around).trans (ih child hchild standing hmem)

/-- Below a shape no shape is an outer one. -/
lemma filter_standings_of_shape_around {layer : Layer} (hlayer : layer ∈ around)
    (hshape : layer.kind.isShape) (node : Node) :
    (node.standings around).filter (·.IsOuterShape) = [] := by
  refine List.filter_eq_nil_iff.mpr fun standing hmem => ?_
  rw [decide_eq_true_eq]
  rintro ⟨-, hplain⟩
  exact hplain layer ((suffix_around_of_mem_standings standing hmem).subset hlayer) hshape

/-- Induction on the tree, with no shape around it. -/
lemma flatMap_fills_standings (haround : ∀ layer ∈ around, ¬layer.kind.isShape) (node : Node) :
    ((node.standings around).filter (·.IsOuterShape)).flatMap (·.node.layer.fills) =
      node.shapeFills := by
  induction node using Node.induction generalizing around with
  | mk layer children ih =>
    rw [standings, standingsOf_eq_flatMap, shapeFills]
    by_cases hshape : layer.kind.isShape
    · have houter : Standing.IsOuterShape ⟨around, .mk layer children⟩ := ⟨hshape, haround⟩
      have hinside :
          (children.flatMap (standings (layer :: around))).filter (·.IsOuterShape) = [] := by
        rw [List.filter_flatMap, List.flatMap_eq_nil_iff]
        exact fun child _ => filter_standings_of_shape_around List.mem_cons_self hshape child
      rw [List.filter_cons_of_pos (by simpa using houter), hinside, if_pos hshape]
      simp [Node.layer]
    · have hinner : ¬Standing.IsOuterShape ⟨around, .mk layer children⟩ := fun h => hshape h.1
      have hplain : ∀ outer ∈ layer :: around, ¬outer.kind.isShape :=
        List.forall_mem_cons.mpr ⟨hshape, haround⟩
      rw [List.filter_cons_of_neg (by simpa using hinner), if_neg hshape, List.filter_flatMap,
        List.flatMap_assoc, shapeFillsOf_eq_flatMap]
      exact List.flatMap_congr fun child hchild => ih child hchild hplain

lemma shapeFills_eq_flatMap_outerShapes (node : Node) :
    node.shapeFills = node.outerShapes.flatMap (·.layer.fills) := by
  have hnone : ∀ layer ∈ ([] : List Layer), ¬layer.kind.isShape := by simp
  rw [outerShapes, List.flatMap_map, flatMap_fills_standings hnone]

end Node

/-! ### Classes of an icon -/

/-- The class gives the text a color. -/
def IsTextColor (entry : String) : Prop :=
  "text-".toList <+: entry.toList

instance : DecidablePred IsTextColor := fun entry =>
  inferInstanceAs (Decidable ("text-".toList <+: entry.toList))

lemma isTextColor_append (name : String) : IsTextColor ("text-" ++ name) := by
  rw [IsTextColor, String.toList_append]
  exact List.prefix_append _ _

lemma not_isTextColor_of_head {entry : String} (h : entry.toList.head? ≠ some 't') :
    ¬IsTextColor entry := by
  rintro ⟨rest, hrest⟩
  rw [← hrest] at h
  exact h rfl

/-- A single class that says nothing about the color of text. -/
structure IsSizeClass (text : String) : Prop where
  word : Text.IsWord text
  plain : ¬IsTextColor text

lemma isSizeClass_pixels (stem : String) (amount : Float) (hstem : Text.IsWord stem)
    (hhead : stem.toList.head? ≠ some 't') :
    IsSizeClass (stem ++ Number.literal amount ++ "px]") := by
  have hunit : Text.Unbroken "px]" := by decide
  refine ⟨⟨by simp, (hstem.unbroken.append (Number.unbroken_literal amount)).append hunit⟩, ?_⟩
  obtain ⟨c, rest, hchars⟩ := List.exists_cons_of_ne_nil
    fun hempty => hstem.ne_empty (String.toList_eq_nil_iff.mp hempty)
  refine not_isTextColor_of_head ?_
  simpa [String.toList_append, hchars] using hhead

lemma isSizeClass_widthClass (sizing : Sizing) {fixed : String} (h : IsSizeClass fixed) :
    IsSizeClass (widthClass sizing fixed) := by
  cases sizing with
  | fill | hug =>
    exact ⟨⟨by simp [widthClass], by rw [widthClass]; decide⟩, by rw [widthClass]; decide⟩
  | fixed => exact h

lemma isSizeClass_heightClass (sizing : Sizing) (inFlex : Bool) {fixed : String}
    (h : IsSizeClass fixed) : IsSizeClass (heightClass sizing inFlex fixed) := by
  cases sizing with
  | fill =>
    cases inFlex <;>
      exact ⟨⟨by simp [heightClass], by rw [heightClass]; decide⟩, by rw [heightClass]; decide⟩
  | hug => exact ⟨⟨by simp [heightClass], by rw [heightClass]; decide⟩, by rw [heightClass]; decide⟩
  | fixed => exact h

namespace Context

variable {context : Context}

lemma filter_inkClasses (colors : List NamedColor) :
    (inkClasses colors).filter (IsTextColor ·) =
      if colors.length = 1 then colors.map ("text-" ++ ·.name) else [] := by
  match colors with
  | [] => rfl
  | [color] => simp [inkClasses, isTextColor_append]
  | _ :: _ :: _ => simp [inkClasses]

/-- The colors of an icon are the bound colors of the shapes in its tree that stand in no other
shape, in document order. They are the colors that the icon delivers, and it has the text color of
one of them among its classes when there is only one, and none otherwise. -/
theorem icon_outerShapes (context : Context) (node : Node) (parent? : Option Parent) :
    let colors := node.outerShapes.flatMap fun shape => context.boundColors shape.layer.fills
    let styling := context.icon node parent?
    (∀ shape, shape ∈ node.outerShapes ↔ ∃ around, node.Holds ⟨around, shape⟩ ∧
      shape.layer.kind.isShape ∧ ∀ layer ∈ around, ¬layer.kind.isShape) ∧
    context.iconColors node = colors ∧ styling.colors = colors ∧
    styling.classes.entries.filter (IsTextColor ·) =
      if colors.length = 1 then colors.map ("text-" ++ ·.name) else [] := by
  intro colors styling
  have hcolors : context.iconColors node = colors := by
    rw [iconColors_eq_boundColors, Node.shapeFills_eq_flatMap_outerShapes, boundColors_flatMap]
  have hwidth := isSizeClass_widthClass node.layer.layout.widthSizing
    (isSizeClass_pixels "w-[" node.layer.box.width ⟨by decide, by decide⟩ (by decide))
  have hheight := isSizeClass_heightClass node.layer.layout.heightSizing (inFlex parent?)
    (isSizeClass_pixels "h-[" node.layer.box.height ⟨by decide, by decide⟩ (by decide))
  have hink : ∀ text ∈ inkClasses (context.iconColors node), Text.IsWord text := by
    rw [iconColors_eq_boundColors]
    exact fun text => isWord_of_mem_inkClasses
  have hentries := Classes.entries_ofList_of_isWord
    (List.forall_mem_cons.mpr ⟨hwidth.word, List.forall_mem_cons.mpr ⟨hheight.word, hink⟩⟩)
  refine ⟨fun shape => Node.mem_outerShapes_iff, hcolors, hcolors, ?_⟩
  change (Classes.ofList _).entries.filter _ = _
  rw [hentries, List.filter_cons_of_neg (by simpa using hwidth.plain),
    List.filter_cons_of_neg (by simpa using hheight.plain), filter_inkClasses, hcolors]

example :
    let shape (kind : Kind) (id : String) (inside : List Node) : Node :=
      .mk { id := id, name := id, kind := kind } inside
    let icon := shape .frame "icon"
      [shape .booleanOperation "union" [shape .vector "hidden" []],
        shape .componentInstance "badge" [shape .text "label" [], shape .ellipse "dot" []]]
    icon.outerShapes.map (·.layer.id) = ["union", "dot"] := by
  decide

end Context

end UtilityMarkup
