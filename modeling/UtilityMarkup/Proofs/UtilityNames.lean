import UtilityMarkup.Proofs.BackgroundUtilities

/-!
# Names of utilities

The stylesheet of a document defines the utilities of its visited nodes, from the leaves up. The
name of a utility comes from the name of its node, of which it keeps neither blanks nor case, and
its background from the node itself. So nodes whose names are spelled alike define one name, and the
class denotes the background of a node when all of them have that background.
-/

namespace UtilityMarkup

structure Utility where
  name : String
  background : String
deriving DecidableEq, Repr

namespace Utility

def block (utility : Utility) : String :=
  utilityBlock utility.name utility.background

end Utility

/-- Every definition of the class sets this background. -/
def Denotes (utilities : List Utility) (name background : String) : Prop :=
  ∀ utility ∈ utilities, utility.name = name → utility.background = background

namespace Node

/-- The names of the nodes agree without blanks and in lower case, and their utilities are for the
same kind of fills. -/
def NamedAlike (node other : Node) : Prop :=
  node.layer.utilityName = other.layer.utilityName ∧
    (2 ≤ node.backgroundFills.length ↔ 2 ≤ other.backgroundFills.length)

end Node

namespace Context

/-- The utility that a node registers. -/
def utility? (context : Context) (node : Node) : Option Utility :=
  if (Role.of node).showsBackground ∧ NeedsUtility node.backgroundFills then
    (context.background? node.layer).map (⟨node.layer.backgroundName node.backgroundFills, ·⟩)
  else none

/-- The utilities of a document, from the leaves up. -/
def utilities (context : Context) (root : Node) : List Utility :=
  root.asRoot.postorder.filterMap fun visit => context.utility? visit.node

/-- The class is an entry of the class list of the node. -/
def Carries (context : Context) (visit : Visit) (name : String) : Prop :=
  ∃ head nested own, ∃ classes : Classes,
    context.generateAt visit = .ok (.element head nested own) ∧ head.className = classes.text ∧
      name ∈ classes.entries

variable {context : Context} {node : Node} {visit : Visit} {utility : Utility}

lemma utility?_eq_some_iff :
    context.utility? node = some utility ↔ (Role.of node).showsBackground = true ∧
      context.Registers node utility.background ∧
      utility.name = node.layer.backgroundName node.backgroundFills := by
  obtain ⟨name, background⟩ := utility
  unfold utility? Registers
  split
  · rename_i h
    simp [h, background?_eq_some_iff, eq_comm (a := name), and_comm]
  · rename_i h
    simp only [reduceCtorEq, false_iff]
    rintro ⟨hshows, ⟨hneeds, -⟩, -⟩
    exact h ⟨hshows, hneeds⟩

lemma isWord_of_utility? (h : context.utility? node = some utility) :
    Text.IsWord utility.name := by
  obtain ⟨-, -, hname⟩ := utility?_eq_some_iff.mp h
  rw [hname]
  exact Layer.isWord_of_isBackgroundName (node.layer.isBackgroundName_backgroundName _)

/-! ### Contributions to the stylesheet -/

lemma delivery_sheet_of_not_showsBackground (hshows : (Role.of node).showsBackground = false) :
    (context.delivery node).sheet = "" := by
  cases hrole : Role.of node with
  | pictureContainer | container | component | text =>
    rw [hrole] at hshows
    cases hshows
  | _ => simp [delivery, hrole]

/-- A node adds the block of its utility to the stylesheet, and nothing else. -/
lemma delivery_sheet_eq (context : Context) (node : Node) :
    (context.delivery node).sheet = ((context.utility? node).map Utility.block).getD "" := by
  cases hutility : context.utility? node with
  | some utility =>
    obtain ⟨hshows, ⟨hneeds, hbackground⟩, hname⟩ := utility?_eq_some_iff.mp hutility
    rw [delivery_sheet_of_showsBackground hshows,
      (fillStyling_of_hasBackground hneeds hbackground).1, ← hname]
    rfl
  | none =>
    cases hshows : (Role.of node).showsBackground with
    | false => exact delivery_sheet_of_not_showsBackground hshows
    | true =>
      rw [delivery_sheet_of_showsBackground hshows]
      refine (fillStyling_of_not_registers ?_).1
      rintro ⟨background, hregisters⟩
      have hsome : context.utility? node =
          some ⟨node.layer.backgroundName node.backgroundFills, background⟩ :=
        utility?_eq_some_iff.mpr ⟨hshows, hregisters, rfl⟩
      rw [hutility] at hsome
      cases hsome

lemma filter_map_getD_block {α : Type} (xs : List α) (f : α → Option Utility) :
    (xs.map fun x => ((f x).map Utility.block).getD "").filter (· ≠ "") =
      (xs.filterMap f).map Utility.block := by
  induction xs with
  | nil => rfl
  | cons x xs ih =>
    cases hx : f x with
    | none => simpa [hx] using ih
    | some utility =>
      have hblock : utility.block ≠ "" := utilityBlock_ne_empty _ _
      simpa [hx, hblock] using ih

lemma compile_stylesheet {root : Node} {output : Output} (h : context.compile root = .ok output) :
    output.stylesheet = "\n".intercalate ((context.utilities root).map Utility.block) := by
  rw [(compile_deliveries h).2.2, List.map_map]
  simp only [Function.comp_def, delivery_sheet_eq]
  rw [joinBlocks, filter_map_getD_block, utilities]

/-! ### Names and what they denote -/

lemma carries_of_mem_fillStyling {name : String}
    (hshows : (Role.of visit.node).showsBackground = true)
    (hname : name ∈
      (context.fillStyling visit.node.layer visit.node.backgroundFills).classes.entries) :
    context.Carries visit name := by
  obtain ⟨head, nested, own, before, after, hgenerate, hclasses⟩ :=
    context.generateAt_of_showsBackground hshows
  refine ⟨head, nested, own, _, hgenerate, hclasses, ?_⟩
  rw [Classes.entries_append, Classes.entries_append]
  exact List.mem_append_left _ (List.mem_append_right _ hname)

lemma carries_of_utility? (h : context.utility? visit.node = some utility) :
    context.Carries visit utility.name := by
  obtain ⟨hshows, ⟨hneeds, hbackground⟩, hname⟩ := utility?_eq_some_iff.mp h
  rw [hname]
  exact carries_of_mem_fillStyling hshows (fillStyling_of_hasBackground hneeds hbackground).2

lemma mem_utilities_iff {root : Node} :
    utility ∈ context.utilities root ↔
      ∃ visit, Visited root.asRoot visit ∧ context.utility? visit.node = some utility := by
  simp only [utilities, List.mem_filterMap, Visited.iff_mem_postorder]

variable {other : Node} {utility' : Utility}

lemma name_eq_iff (h : context.utility? node = some utility)
    (h' : context.utility? other = some utility') :
    utility.name = utility'.name ↔ node.NamedAlike other := by
  obtain ⟨-, -, hname⟩ := utility?_eq_some_iff.mp h
  obtain ⟨-, -, hname'⟩ := utility?_eq_some_iff.mp h'
  rw [hname, hname']
  exact Layer.backgroundName_eq_iff

lemma block_eq_iff (h : context.utility? node = some utility)
    (h' : context.utility? other = some utility') :
    utility.block = utility'.block ↔
      utility.name = utility'.name ∧ utility.background = utility'.background :=
  utilityBlock_inj (isWord_of_utility? h) (isWord_of_utility? h')

lemma denotes_iff {root : Node} (h : context.utility? node = some utility) (background : String) :
    Denotes (context.utilities root) utility.name background ↔
      ∀ visit utility', Visited root.asRoot visit → context.utility? visit.node = some utility' →
        visit.node.NamedAlike node → utility'.background = background := by
  constructor
  · intro hdenotes visit utility' hvisit hutility' halike
    exact hdenotes utility' (mem_utilities_iff.mpr ⟨visit, hvisit, hutility'⟩)
      ((name_eq_iff hutility' h).mpr halike)
  · intro hsame utility' hmem hname
    obtain ⟨visit, hvisit, hutility'⟩ := mem_utilities_iff.mp hmem
    exact hsame visit utility' hvisit hutility' ((name_eq_iff hutility' h).mp hname)

/-- The stylesheet of a document that compiles consists of the utilities of its visited nodes, from
the leaves up. Two of them have the same name exactly when their nodes are named alike, and the same
block exactly when they also have the same background. A node carries the class of its utility, and
the class denotes its background exactly when all nodes named alike have that background. -/
theorem compile_utilities {root : Node} {output : Output} (h : context.compile root = .ok output) :
    output.stylesheet = "\n".intercalate ((context.utilities root).map Utility.block) ∧
    (∀ utility, utility ∈ context.utilities root ↔
      ∃ visit, Visited root.asRoot visit ∧ context.utility? visit.node = some utility) ∧
    ∀ visit utility, Visited root.asRoot visit → context.utility? visit.node = some utility →
      context.Carries visit utility.name ∧
      (∀ visit' utility', Visited root.asRoot visit' →
        context.utility? visit'.node = some utility' →
        (utility.name = utility'.name ↔ visit.node.NamedAlike visit'.node) ∧
        (utility.block = utility'.block ↔
          utility.name = utility'.name ∧ utility.background = utility'.background)) ∧
      (Denotes (context.utilities root) utility.name utility.background ↔
        ∀ visit' utility', Visited root.asRoot visit' →
          context.utility? visit'.node = some utility' →
          visit'.node.NamedAlike visit.node → utility'.background = utility.background) := by
  refine ⟨compile_stylesheet h, fun _ => mem_utilities_iff, fun visit utility _ hutility => ?_⟩
  refine ⟨carries_of_utility? hutility, fun visit' utility' _ hutility' => ?_,
    denotes_iff hutility utility.background⟩
  exact ⟨name_eq_iff hutility hutility', block_eq_iff hutility hutility'⟩

end Context

theorem compile_utilities_cardPage :
    let context : Context := ⟨cardResources, {}⟩
    context.compile cardPage = .ok cardOutput ∧
    context.utilities cardPage =
      [⟨"card_gradient", "none"⟩, ⟨"page_bg", "linear-gradient(red, red)"⟩] ∧
    cardOutput.stylesheet = "\n".intercalate ((context.utilities cardPage).map Utility.block) ∧
    context.utility? cardPage = some ⟨"page_bg", "linear-gradient(red, red)"⟩ ∧
    context.Carries cardPage.asRoot "page_bg" ∧
    Denotes (context.utilities cardPage) "page_bg" "linear-gradient(red, red)" := by
  have hutility : Context.utility? ⟨cardResources, {}⟩ cardPage =
      some ⟨"page_bg", "linear-gradient(red, red)"⟩ := by decide +kernel
  have hutilities : Context.utilities ⟨cardResources, {}⟩ cardPage =
      [⟨"card_gradient", "none"⟩, ⟨"page_bg", "linear-gradient(red, red)"⟩] := by decide +kernel
  obtain ⟨hstylesheet, -, hvisits⟩ := Context.compile_utilities compile_cardPage
  obtain ⟨hcarries, -, -⟩ := hvisits cardPage.asRoot _ .root hutility
  refine ⟨compile_cardPage, hutilities, hstylesheet, hutility, hcarries, ?_⟩
  simp [hutilities, Denotes]

/-! ### A page with two inks -/

def inkPaint : Paint := .solid { color := .ofBytes 0 0 0 }

def redInk : Node :=
  .mk { id := "red", name := "bg-ink", kind := .frame, fills := [inkPaint, inkPaint] } []

def blueInk : Node :=
  .mk { id := "blue", name := "BG - Ink", kind := .frame, fills := [inkPaint, inkPaint] } []

/-- The color of the dot is named like the utility of the inks. -/
def plainInk : Node :=
  .mk { id := "dot", name := "Dot", kind := .frame, fills := [inkPaint] } []

def inkPage : Node :=
  .mk { id := "page", name := "Page", kind := .frame } [redInk, blueInk, plainInk]

def inkContext : Context where
  resources := { backgrounds := .ofList [("red", "linear-gradient(red, red)"),
    ("blue", "linear-gradient(blue, blue)")] }
  settings := inkSettings

def redUtility : Utility := ⟨"bg-ink_bg", "linear-gradient(red, red)"⟩

def blueUtility : Utility := ⟨"bg-ink_bg", "linear-gradient(blue, blue)"⟩

def inkOutput : Output where
  markup := "<div>\n<div class=\"bg-ink_bg\"></div>\n<div class=\"bg-ink_bg\"></div>\n" ++
    "<div class=\"bg-ink_bg\"></div>\n</div>"
  stylesheet := redUtility.block ++ "\n" ++ blueUtility.block

theorem inkPage_defines_name_twice :
    inkContext.compile inkPage = .ok inkOutput ∧
    (∃ red blue dot, Visited inkPage.asRoot red ∧ Visited inkPage.asRoot blue ∧
      Visited inkPage.asRoot dot ∧
      inkContext.utility? red.node = some redUtility ∧
      inkContext.utility? blue.node = some blueUtility ∧
      inkContext.utility? dot.node = none ∧ inkContext.Carries dot redUtility.name) ∧
    redUtility.name = blueUtility.name ∧ redUtility.block ≠ blueUtility.block := by
  have hchild (child : Node) (h : child ∈ inkPage.children) :
      Visited inkPage.asRoot ⟨some inkPage.layer.asParent, child⟩ :=
    .child .root (by decide) h
  have hcarries : inkContext.Carries ⟨some inkPage.layer.asParent, plainInk⟩ redUtility.name :=
    Context.carries_of_mem_fillStyling (by decide) (by decide +kernel)
  exact ⟨by decide +kernel, ⟨_, _, _, hchild redInk (by simp [inkPage, Node.children]),
    hchild blueInk (by simp [inkPage, Node.children]),
    hchild plainInk (by simp [inkPage, Node.children]), by decide +kernel, by decide +kernel,
    by decide +kernel, hcarries⟩, rfl, by decide +kernel⟩

end UtilityMarkup
