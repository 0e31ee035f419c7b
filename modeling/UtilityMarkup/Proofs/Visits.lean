import Mathlib.Data.List.Perm.Basic
import UtilityMarkup.Compile.Output
import UtilityMarkup.Proofs.Traversals

/-!
# Visits

A visit is a node where it stands, with what it knows of the node around it. The visits of a
document are its root and, from there on, the children of every visited node that shows them. They
are listed from the leaves up and in document order, and compiling a visit amounts to generating its
fragment and compiling the visits right inside it.
-/

namespace UtilityMarkup

structure Visit where
  parent? : Option Parent
  node : Node

namespace Node

/-- What holds of a node once it holds of its children holds of every node. -/
@[elab_as_elim]
protected theorem induction {motive : Node → Prop}
    (mk : ∀ layer children, (∀ child ∈ children, motive child) → motive (.mk layer children)) :
    ∀ node, motive node
  | .mk layer children => mk layer children fun child _ => Node.induction mk child

/-- The visit that compiling a document starts with. -/
def asRoot (root : Node) : Visit := ⟨none, root⟩

mutual

/-- Combines the results for the nodes shown inside a node into the result for the node. -/
def foldShown {α : Type} (combine : Visit → List α → α) (parent? : Option Parent) : Node → α
  | .mk layer children =>
    combine ⟨parent?, .mk layer children⟩
      (if (Role.of (.mk layer children)).showsChildren then
        foldShownAll combine layer.asParent children
      else [])

def foldShownAll {α : Type} (combine : Visit → List α → α) (parent : Parent) : List Node → List α
  | [] => []
  | node :: nodes =>
    foldShown combine (some parent) node :: foldShownAll combine parent nodes

end

lemma foldShownAll_eq_map {α : Type} (combine : Visit → List α → α) (parent : Parent)
    (nodes : List Node) :
    foldShownAll combine parent nodes = nodes.map (foldShown combine (some parent)) := by
  induction nodes with
  | nil => rfl
  | cons node nodes ih => rw [foldShownAll, ih, List.map_cons]

end Node

namespace Visit

/-- The visits right inside a visit. -/
def inside (visit : Visit) : List Visit :=
  if (Role.of visit.node).showsChildren then
    visit.node.children.map (⟨some visit.node.layer.asParent, ·⟩)
  else []

lemma mem_inside_iff {visit inner : Visit} :
    inner ∈ visit.inside ↔ (Role.of visit.node).showsChildren ∧
      ∃ child ∈ visit.node.children, inner = ⟨some visit.node.layer.asParent, child⟩ := by
  by_cases h : (Role.of visit.node).showsChildren <;> simp [inside, h, eq_comm]

/-- What holds of a visit once it holds of the visits right inside it holds of every visit. -/
@[elab_as_elim]
protected theorem induction {motive : Visit → Prop}
    (step : ∀ visit, (∀ inner ∈ visit.inside, motive inner) → motive visit) (visit : Visit) :
    motive visit := by
  obtain ⟨parent?, node⟩ := visit
  induction node using Node.induction generalizing parent? with
  | mk layer children ih =>
    refine step _ fun inner hinner => ?_
    obtain ⟨-, child, hchild, rfl⟩ := mem_inside_iff.mp hinner
    exact ih child hchild (some layer.asParent)

def fold {α : Type} (combine : Visit → List α → α) (visit : Visit) : α :=
  visit.node.foldShown combine visit.parent?

theorem fold_eq {α : Type} (combine : Visit → List α → α) (visit : Visit) :
    visit.fold combine = combine visit (visit.inside.map (fold combine)) := by
  obtain ⟨parent?, layer, children⟩ := visit
  by_cases h : (Role.of (.mk layer children)).showsChildren
  · simp [fold, inside, h, Node.foldShown, Node.foldShownAll_eq_map, Node.children, Node.layer,
      Function.comp_def]
  · simp [fold, inside, h, Node.foldShown]

/-! ### Orders -/

/-- A visit and all that is inside it, each visit after those inside it. -/
def postorder : Visit → List Visit :=
  fold fun visit inside => inside.flatten ++ [visit]

/-- A visit and all that is inside it, in document order. -/
def preorder : Visit → List Visit :=
  fold fun visit inside => visit :: inside.flatten

theorem postorder_eq (visit : Visit) :
    visit.postorder = visit.inside.flatMap postorder ++ [visit] :=
  fold_eq _ visit

theorem preorder_eq (visit : Visit) :
    visit.preorder = visit :: visit.inside.flatMap preorder :=
  fold_eq _ visit

lemma mem_preorder_iff {root visit : Visit} :
    visit ∈ root.preorder ↔ visit = root ∨ ∃ inner ∈ root.inside, visit ∈ inner.preorder := by
  rw [preorder_eq, List.mem_cons, List.mem_flatMap]

theorem preorder_perm_postorder (visit : Visit) : visit.preorder.Perm visit.postorder := by
  induction visit using Visit.induction with
  | step visit ih =>
    rw [preorder_eq, postorder_eq]
    exact ((List.Perm.flatMap_left _ ih).cons visit).trans (List.perm_append_singleton _ _).symm

end Visit

/-- The root is visited, and so is each child of a visited node that shows its children. -/
inductive Visited (root : Visit) : Visit → Prop
  | root : Visited root root
  | child {visit : Visit} {child : Node} (hvisit : Visited root visit)
      (hshown : (Role.of visit.node).showsChildren) (hchild : child ∈ visit.node.children) :
      Visited root ⟨some visit.node.layer.asParent, child⟩

namespace Visited

lemma of_inside {root inner visit : Visit} (hinner : inner ∈ root.inside)
    (h : Visited inner visit) : Visited root visit := by
  obtain ⟨hshown, child, hchild, rfl⟩ := Visit.mem_inside_iff.mp hinner
  induction h with
  | root => exact .child .root hshown hchild
  | child _ hshown hchild ih => exact .child ih hshown hchild

lemma mem_preorder_of_mem_inside {root visit inner : Visit} (hvisit : visit ∈ root.preorder)
    (hinner : inner ∈ visit.inside) : inner ∈ root.preorder := by
  induction root using Visit.induction with
  | step root ih =>
    rcases Visit.mem_preorder_iff.mp hvisit with rfl | ⟨middle, hmiddle, hvisit⟩
    · exact Visit.mem_preorder_iff.mpr (.inr ⟨inner, hinner, Visit.mem_preorder_iff.mpr (.inl rfl)⟩)
    · exact Visit.mem_preorder_iff.mpr (.inr ⟨middle, hmiddle, ih middle hmiddle hvisit⟩)

theorem iff_mem_preorder {root visit : Visit} : Visited root visit ↔ visit ∈ root.preorder := by
  constructor
  · intro h
    induction h with
    | root => exact Visit.mem_preorder_iff.mpr (.inl rfl)
    | child _ hshown hchild ih =>
      exact mem_preorder_of_mem_inside ih (Visit.mem_inside_iff.mpr ⟨hshown, _, hchild, rfl⟩)
  · intro h
    induction root using Visit.induction with
    | step root ih =>
      rcases Visit.mem_preorder_iff.mp h with rfl | ⟨inner, hinner, hvisit⟩
      · exact .root
      · exact .of_inside hinner (ih inner hinner hvisit)

theorem iff_mem_postorder {root visit : Visit} : Visited root visit ↔ visit ∈ root.postorder := by
  rw [iff_mem_preorder, root.preorder_perm_postorder.mem_iff]

end Visited

/-! ### Outputs -/

namespace Assets

@[simp] lemma empty_append (assets : Assets) : {} ++ assets = assets := rfl

@[simp] lemma append_empty (assets : Assets) : assets ++ {} = assets := by
  apply Assets.ext <;> simp

end Assets

namespace Output

theorem colors_around (fragment : Fragment) (inside : List Output) :
    (around fragment inside).assets.colors =
      inside.flatMap (·.assets.colors) ++ fragment.assets.colors := by
  induction inside with
  | nil => rfl
  | cons output outputs ih =>
    rw [List.flatMap_cons, List.append_assoc, ← ih]
    rfl

theorem pictures_around (fragment : Fragment) (inside : List Output) :
    (around fragment inside).assets.pictures =
      inside.flatMap (·.assets.pictures) ++ fragment.assets.pictures := by
  induction inside with
  | nil => rfl
  | cons output outputs ih =>
    rw [List.flatMap_cons, List.append_assoc, ← ih]
    rfl

end Output

/-! ### Compiling visits -/

namespace Context

/-- The fragment of a visited node. -/
def generateAt (context : Context) (visit : Visit) : Except Failure Fragment :=
  context.generate visit.node visit.parent?

def compileAt (context : Context) (visit : Visit) : Except Failure Output :=
  context.compileIn visit.parent? visit.node

theorem compileAt_eq (context : Context) (visit : Visit) :
    context.compileAt visit = (do
      let fragment ← context.generateAt visit
      let inside ← visit.inside.mapM context.compileAt
      return .around fragment inside) := by
  obtain ⟨parent?, layer, children⟩ := visit
  by_cases h : (Role.of (.mk layer children)).showsChildren
  · simp [compileAt, compileIn, generateAt, outline, Outline.of, h, Visit.inside,
      compileAll_eq_mapM, Node.children, Node.layer, Function.comp_def]
  · simp [compileAt, compileIn, generateAt, outline, Outline.of, h, Visit.inside]

theorem compileAt_eq_ok_iff {context : Context} {visit : Visit} {output : Output} :
    context.compileAt visit = .ok output ↔
      ∃ fragment, context.generateAt visit = .ok fragment ∧
        ∃ inside, visit.inside.map context.compileAt = inside.map .ok ∧
          .around fragment inside = output := by
  simp only [compileAt_eq, bind_eq_ok_iff, mapM_eq_ok_iff, pure, Except.pure, Except.ok.injEq]

lemma exists_around_of_compileAt {context : Context} {visit : Visit} {fragment : Fragment}
    {output : Output} (hfragment : context.generateAt visit = .ok fragment)
    (houtput : context.compileAt visit = .ok output) :
    ∃ inside, output = .around fragment inside := by
  obtain ⟨generated, hgenerated, inside, -, rfl⟩ := compileAt_eq_ok_iff.mp houtput
  obtain rfl : fragment = generated := Except.ok.inj (hfragment.symm.trans hgenerated)
  exact ⟨inside, rfl⟩

/-- Where nothing inside is shown, the output of a node is that of its fragment alone. -/
lemma compileIn_of_hidden {context : Context} {parent? : Option Parent} {node : Node}
    {fragment : Fragment} (hhidden : (Role.of node).showsChildren = false)
    (h : context.generate node parent? = .ok fragment) :
    context.compileIn parent? node = .ok (.around fragment []) := by
  have hinside : Visit.inside ⟨parent?, node⟩ = [] := by simp [Visit.inside, hhidden]
  change context.compileAt ⟨parent?, node⟩ = _
  rw [compileAt_eq, hinside, generateAt, h]
  rfl

end Context

end UtilityMarkup
