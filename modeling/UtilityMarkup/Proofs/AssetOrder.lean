import UtilityMarkup.Proofs.Visits
import UtilityMarkup.Utility.Styling

/-!
# Order of assets

The assets and the stylesheet of a document are those of the fragments of its visits, from the
leaves up. The stylesheet is joined level by level, which comes to the same as joining all its
blocks at once because adding a block is associative and ignores empty blocks.
-/

namespace UtilityMarkup

/-! ### Joining blocks -/

/-- The blocks that are not empty, each on a line of its own. -/
def joinBlocks (blocks : List String) : String :=
  "\n".intercalate (blocks.filter (· ≠ ""))

@[simp] lemma addBlock_empty (sheet : String) : addBlock sheet "" = sheet := rfl

@[simp] lemma empty_addBlock (block : String) : addBlock "" block = block := by
  by_cases h : block = "" <;> simp [addBlock, h]

lemma addBlock_assoc (a b c : String) : addBlock (addBlock a b) c = addBlock a (addBlock b c) := by
  by_cases ha : a = ""
  · simp [ha]
  by_cases hb : b = ""
  · simp [hb]
  by_cases hc : c = ""
  · simp [hc]
  simp [addBlock, ha, hb, hc, String.append_assoc]

@[simp] lemma joinBlocks_nil : joinBlocks [] = "" := by
  simp [joinBlocks]

lemma joinBlocks_cons (block : String) (blocks : List String) :
    joinBlocks (block :: blocks) = addBlock block (joinBlocks blocks) := by
  by_cases hblock : block = ""
  · simp [joinBlocks, hblock]
  have hkept : ∀ kept ∈ blocks.filter (· ≠ ""), kept ≠ "" := by
    intro kept h
    simpa using (List.mem_filter.mp h).2
  rw [joinBlocks, joinBlocks, List.filter_cons_of_pos (by simpa using hblock)]
  generalize blocks.filter (· ≠ "") = kept at hkept ⊢
  cases kept with
  | nil => simp
  | cons next rest =>
    have hnext : next ≠ "" := hkept next (by simp)
    have hjoined : "\n".intercalate (next :: rest) ≠ "" := by
      cases rest <;> simp [hnext]
    rw [addBlock, if_neg hjoined, if_neg hblock, String.intercalate_cons_cons]

lemma joinBlocks_append (blocks more : List String) :
    joinBlocks (blocks ++ more) = addBlock (joinBlocks blocks) (joinBlocks more) := by
  induction blocks with
  | nil => simp
  | cons block blocks ih =>
    rw [List.cons_append, joinBlocks_cons, ih, joinBlocks_cons, addBlock_assoc]

lemma joinBlocks_singleton (block : String) : joinBlocks [block] = block := by
  simp [joinBlocks_cons]

/-- Joining in groups first changes nothing. -/
theorem joinBlocks_map_joinBlocks {α : Type} (groups : List α) (blocks : α → List String) :
    joinBlocks (groups.map fun group => joinBlocks (blocks group)) =
      joinBlocks (groups.flatMap blocks) := by
  induction groups with
  | nil => rfl
  | cons group groups ih =>
    rw [List.map_cons, joinBlocks_cons, ih, List.flatMap_cons, joinBlocks_append]

namespace Fragment

lemma assetsOf_append (fragments more : List Fragment) :
    assetsOf (fragments ++ more) = assetsOf fragments ++ assetsOf more := by
  induction fragments with
  | nil => simp [assetsOf]
  | cons fragment fragments ih => simp [assetsOf, ih, Assets.append_assoc]

lemma foldr_assetsOf {α : Type} (groups : List α) (fragments : α → List Fragment) (own : Assets) :
    (groups.map fun group => assetsOf (fragments group)).foldr (· ++ ·) own =
      assetsOf (groups.flatMap fragments) ++ own := by
  induction groups with
  | nil => simp [assetsOf]
  | cons group groups ih =>
    rw [List.map_cons, List.foldr_cons, ih, List.flatMap_cons, assetsOf_append, Assets.append_assoc]

end Fragment

/-! ### Fragments of a document -/

namespace Context

def fragmentAt? (context : Context) (visit : Visit) : Option Fragment :=
  (context.generateAt visit).toOption

/-- The fragments of a visit and of all that is inside it, from the leaves up. -/
def fragments (context : Context) (visit : Visit) : List Fragment :=
  visit.postorder.filterMap context.fragmentAt?

lemma fragments_eq {context : Context} {visit : Visit} {fragment : Fragment}
    (h : context.generateAt visit = .ok fragment) :
    context.fragments visit = visit.inside.flatMap context.fragments ++ [fragment] := by
  have hown : context.fragmentAt? visit = some fragment := by
    rw [fragmentAt?, h, Except.toOption]
  rw [fragments, Visit.postorder_eq, List.filterMap_append, List.filterMap_flatMap,
    List.filterMap_cons_some hown, List.filterMap_nil]
  rfl

theorem compileAt_fragments {context : Context} {visit : Visit} {output : Output}
    (h : context.compileAt visit = .ok output) :
    visit.postorder.map context.generateAt = (context.fragments visit).map .ok := by
  induction visit using Visit.induction generalizing output with
  | step visit ih =>
    obtain ⟨fragment, hfragment, outputs, hinside, -⟩ := compileAt_eq_ok_iff.mp h
    have hsame : ∀ inner ∈ visit.inside,
        inner.postorder.map context.generateAt = (context.fragments inner).map .ok := by
      intro inner hinner
      obtain ⟨output, -, houtput⟩ := List.mem_map.mp (hinside ▸ List.mem_map_of_mem hinner)
      exact ih inner hinner houtput.symm
    rw [Visit.postorder_eq, fragments_eq hfragment]
    simp only [List.map_append, List.map_flatMap, List.map_cons, List.map_nil, hfragment,
      List.flatMap_congr hsame]

theorem compileAt_assets {context : Context} {visit : Visit} {output : Output}
    (h : context.compileAt visit = .ok output) :
    output.assets = Fragment.assetsOf (context.fragments visit) := by
  induction visit using Visit.induction generalizing output with
  | step visit ih =>
    obtain ⟨fragment, hfragment, outputs, hinside, rfl⟩ := compileAt_eq_ok_iff.mp h
    have houtputs : outputs.map (·.assets) =
        visit.inside.map fun inner => Fragment.assetsOf (context.fragments inner) :=
      map_eq_of_map_eq_ok hinside fun inner hinner _ => ih inner hinner
    calc (Output.around fragment outputs).assets
      _ = (outputs.map (·.assets)).foldr (· ++ ·) fragment.assets := by
        rw [Output.around, List.foldr_map]
      _ = Fragment.assetsOf (visit.inside.flatMap context.fragments) ++ fragment.assets := by
        rw [houtputs, Fragment.foldr_assetsOf]
      _ = Fragment.assetsOf (context.fragments visit) := by
        rw [fragments_eq hfragment, Fragment.assetsOf_append, Fragment.assetsOf, Fragment.assetsOf,
          Assets.append_empty]

theorem compileAt_stylesheet {context : Context} {visit : Visit} {output : Output}
    (h : context.compileAt visit = .ok output) :
    output.stylesheet = joinBlocks ((context.fragments visit).map (·.sheet)) := by
  induction visit using Visit.induction generalizing output with
  | step visit ih =>
    obtain ⟨fragment, hfragment, outputs, hinside, rfl⟩ := compileAt_eq_ok_iff.mp h
    have houtputs : outputs.map (·.stylesheet) =
        visit.inside.map fun inner => joinBlocks ((context.fragments inner).map (·.sheet)) :=
      map_eq_of_map_eq_ok hinside fun inner hinner _ => ih inner hinner
    calc (Output.around fragment outputs).stylesheet
      _ = joinBlocks (outputs.map (·.stylesheet) ++ [fragment.sheet]) := rfl
      _ = addBlock (joinBlocks (visit.inside.flatMap fun inner =>
            (context.fragments inner).map (·.sheet))) fragment.sheet := by
        rw [joinBlocks_append, houtputs, joinBlocks_map_joinBlocks, joinBlocks_singleton]
      _ = joinBlocks ((context.fragments visit).map (·.sheet)) := by
        rw [fragments_eq hfragment, List.map_append, joinBlocks_append, List.map_flatMap,
          List.map_singleton, joinBlocks_singleton]

/-- A document that compiles has exactly the assets and the stylesheet blocks of the fragments of
its visits, in the order of the visits from the leaves up. -/
theorem compile_assets {context : Context} {root : Node} {output : Output}
    (h : context.compile root = .ok output) :
    (∀ visit, visit ∈ root.asRoot.postorder ↔ Visited root.asRoot visit) ∧
    ∃ fragments : List Fragment,
      root.asRoot.postorder.map context.generateAt = fragments.map .ok ∧
      output.assets.colors = fragments.flatMap (·.assets.colors) ∧
      output.assets.pictures = fragments.flatMap (·.assets.pictures) ∧
      output.stylesheet = "\n".intercalate ((fragments.map (·.sheet)).filter (· ≠ "")) := by
  have hroot : context.compileAt root.asRoot = .ok output := h
  refine ⟨fun visit => Visited.iff_mem_postorder.symm, context.fragments root.asRoot,
    compileAt_fragments hroot, ?_, ?_, ?_⟩
  · rw [compileAt_assets hroot, Fragment.colors_assetsOf]
  · rw [compileAt_assets hroot, Fragment.pictures_assetsOf]
  · rw [compileAt_stylesheet hroot, joinBlocks]

end Context

/-! ### A page with a card and an icon -/

/-- The page and the card have stylesheet blocks, and the icon hides a dot with a bound color. -/
def cardPage : Node :=
  .mk { id := "page", name := "Page", kind := .frame
        fills := [.solid { color := ⟨0, 0, 0, 1⟩ },
          .solid { color := ⟨1, 1, 1, 1⟩, boundTo? := some "ink" }] }
    [.mk { id := "card", name := "Card", kind := .frame
           fills := [.gradient ⟨.radial, [], .initial⟩] } [],
      .mk { id := "icon", name := "Icon", kind := .frame, isAsset := true }
        [.mk { id := "dot", name := "Dot", kind := .ellipse
               fills := [.solid { color := ⟨0, 0, 0, 1⟩, boundTo? := some "ink" }] } []]]

def cardResources : Resources where
  designVariables := .ofList [("ink", (⟨"ink", some ⟨0, 0, 0, 1⟩⟩ : Variable))]
  drawings := .ofList [("icon", "<svg/>")]
  backgrounds := .ofList [("page", "linear-gradient(red, red)"), ("card", "none")]

def cardOutput : Output where
  markup := "<div class=\"page_bg\">\n<div class=\"card_gradient\"></div>\n" ++
    "<svg class=\"w-[0px] h-[0px] text-ink\"/>\n</div>"
  assets := { colors := [⟨"ink", "#000000"⟩, ⟨"ink", "#000000"⟩] }
  stylesheet := "@utility card_gradient \x7b background-image: none; \x7d\n" ++
    "@utility page_bg \x7b background-image: linear-gradient(red, red); \x7d"

lemma compile_cardPage : Context.compile ⟨cardResources, {}⟩ cardPage = .ok cardOutput := by
  decide +kernel

theorem compile_assets_cardPage :
    Context.compile ⟨cardResources, {}⟩ cardPage = .ok cardOutput ∧
    (∀ visit, visit ∈ cardPage.asRoot.postorder ↔ Visited cardPage.asRoot visit) ∧
    ∃ fragments : List Fragment,
      cardPage.asRoot.postorder.map (Context.generateAt ⟨cardResources, {}⟩) =
        fragments.map .ok ∧
      cardOutput.assets.colors = fragments.flatMap (·.assets.colors) ∧
      cardOutput.assets.pictures = fragments.flatMap (·.assets.pictures) ∧
      cardOutput.stylesheet = "\n".intercalate ((fragments.map (·.sheet)).filter (· ≠ "")) :=
  ⟨compile_cardPage, Context.compile_assets compile_cardPage⟩

end UtilityMarkup
