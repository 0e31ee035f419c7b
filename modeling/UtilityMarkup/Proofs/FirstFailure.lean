import UtilityMarkup.Proofs.Visits

/-!
# The first failure

Compiling a document fails exactly when a visited node lacks its drawing or its component, and the
first such node in document order decides the failure. Nothing else in the resources or the settings
has a part in it.
-/

namespace UtilityMarkup

/-! ### Failures of a node -/

/-- The node is drawn by the application, which has no drawing of it, or is an instance of a
component that is unknown. -/
def Resources.lacks (resources : Resources) (node : Node) : Bool :=
  match Role.of node with
  | .shape | .icon => resources.drawings[node.layer.id]?.isNone
  | .componentInstance => resources.components[node.layer.id]?.isNone
  | .picture | .pictureContainer | .container | .component | .text | .other => false

/-- The same nodes are drawn and the same components are known, whatever they are. -/
structure Resources.SuppliesAlike (resources resources' : Resources) : Prop where
  drawings : ∀ id : String, resources.drawings[id]?.isNone = resources'.drawings[id]?.isNone
  components : ∀ id : String, resources.components[id]?.isNone = resources'.components[id]?.isNone

namespace Node

/-- The failure of a node for lack of what it needs. -/
def failure (node : Node) : Failure :=
  match Role.of node with
  | .componentInstance => .unknownComponent node.layer.name
  | _ => .notDrawn node.layer.name ("no export registered for node " ++ node.layer.id)

/-- All of a node that has a part in a failure. -/
def identity (node : Node) : Role × String × String :=
  (Role.of node, node.layer.id, node.layer.name)

end Node

namespace Context

lemma errorOf?_drawing (context : Context) (layer : Layer) :
    errorOf? (context.drawing layer) =
      if context.resources.drawings[layer.id]?.isNone then
        some (.notDrawn layer.name ("no export registered for node " ++ layer.id))
      else none := by
  rw [drawing, Resources.drawing]
  cases context.resources.drawings[layer.id]? <;> rfl

lemma errorOf?_shapeFragment (context : Context) (layer : Layer) :
    errorOf? (context.shapeFragment layer) = errorOf? (context.drawing layer) :=
  errorOf?_bind_return _ _

lemma errorOf?_iconFragment (context : Context) (node : Node) (parent? : Option Parent) :
    errorOf? (context.iconFragment node parent?) = errorOf? (context.drawing node.layer) :=
  errorOf?_bind_return _ _

lemma errorOf?_instanceFragment (context : Context) (layer : Layer) :
    errorOf? (context.instanceFragment layer) =
      if context.resources.components[layer.id]?.isNone then
        some (.unknownComponent layer.name)
      else none := by
  rw [instanceFragment]
  cases context.resources.components[layer.id]? <;> rfl

theorem errorOf?_generate (context : Context) (node : Node) (parent? : Option Parent) :
    errorOf? (context.generate node parent?) =
      if context.resources.lacks node then some node.failure else none := by
  cases hrole : Role.of node with
  | shape =>
    simp only [generate, Resources.lacks, Node.failure, hrole, errorOf?_shapeFragment,
      errorOf?_drawing]
  | icon =>
    simp only [generate, Resources.lacks, Node.failure, hrole, errorOf?_iconFragment,
      errorOf?_drawing]
  | componentInstance =>
    simp only [generate, Resources.lacks, Node.failure, hrole, errorOf?_instanceFragment]
  | picture | pictureContainer | container | component | text | other =>
    simp [generate, Resources.lacks, hrole, errorOf?]

theorem errorOf?_compileAt (context : Context) (visit : Visit) :
    errorOf? (context.compileAt visit) =
      visit.preorder.findSome? fun inner => errorOf? (context.generateAt inner) := by
  induction visit using Visit.induction with
  | step visit ih =>
    rw [compileAt_eq, Visit.preorder_eq, List.findSome?_cons, findSome?_flatMap]
    cases context.generateAt visit with
    | error failure => rfl
    | ok fragment =>
      calc errorOf? (do
              let inside ← visit.inside.mapM context.compileAt
              return Output.around fragment inside)
        _ = errorOf? (visit.inside.mapM context.compileAt) := errorOf?_bind_return _ _
        _ = visit.inside.findSome? fun inner => errorOf? (context.compileAt inner) :=
          errorOf?_mapM _ _
        _ = visit.inside.findSome? fun inner =>
              inner.preorder.findSome? fun inner => errorOf? (context.generateAt inner) := by
          rw [← List.head?_filterMap, List.filterMap_congr ih, List.head?_filterMap]

/-- The failure of a document is that of the first of its visits that lacks something. -/
theorem errorOf?_compile (context : Context) (root : Node) :
    errorOf? (context.compile root) = root.asRoot.preorder.findSome? fun visit =>
      if context.resources.lacks visit.node then some visit.node.failure else none := by
  rw [← funext fun visit : Visit => context.errorOf?_generate visit.node visit.parent?]
  exact context.errorOf?_compileAt root.asRoot

lemma lacking_eq_some_iff {resources : Resources} {node : Node} {failure : Failure} :
    (if resources.lacks node then some node.failure else none) = some failure ↔
      resources.lacks node ∧ failure = node.failure := by
  rw [Option.ite_none_right_eq_some, Option.some.injEq, @eq_comm _ failure]

theorem compile_eq_error_iff {context : Context} {root : Node} {failure : Failure} :
    context.compile root = .error failure ↔
      ∃ earlier visit later, root.asRoot.preorder = earlier ++ visit :: later ∧
        (context.resources.lacks visit.node ∧ failure = visit.node.failure) ∧
        ∀ other ∈ earlier, ¬context.resources.lacks other.node := by
  simp only [← errorOf?_eq_some_iff, errorOf?_compile, List.findSome?_eq_some_iff,
    lacking_eq_some_iff, ite_eq_right_iff, reduceCtorEq, imp_false]

lemma isSome_lacking_iff {resources : Resources} {node : Node} :
    (if resources.lacks node then some node.failure else none).isSome ↔ resources.lacks node := by
  by_cases h : resources.lacks node <;> simp [h]

theorem exists_compile_eq_error_iff {context : Context} {root : Node} :
    (∃ failure, context.compile root = .error failure) ↔
      ∃ visit, Visited root.asRoot visit ∧ context.resources.lacks visit.node := by
  have hsome : (∃ failure, context.compile root = .error failure) ↔
      (errorOf? (context.compile root)).isSome := by
    simp only [Option.isSome_iff_exists, errorOf?_eq_some_iff]
  rw [hsome, errorOf?_compile, List.findSome?_isSome_iff]
  simp only [isSome_lacking_iff, Visited.iff_mem_preorder]

/-- Documents whose visited nodes agree in role, id and name fail alike wherever the same drawings
and components are at hand. -/
theorem compile_eq_error_congr {context context' : Context} {root root' : Node}
    (hsupplies : context.resources.SuppliesAlike context'.resources)
    (hvisits : root.asRoot.preorder.map (·.node.identity) =
      root'.asRoot.preorder.map (·.node.identity)) (failure : Failure) :
    context.compile root = .error failure ↔ context'.compile root' = .error failure := by
  have herror : errorOf? (context.compile root) = errorOf? (context'.compile root') := by
    rw [errorOf?_compile, errorOf?_compile]
    refine findSome?_eq_of_map_eq hvisits fun visit visit' hidentity => ?_
    obtain ⟨hrole, hid, hname⟩ : Role.of visit.node = Role.of visit'.node ∧
        visit.node.layer.id = visit'.node.layer.id ∧
        visit.node.layer.name = visit'.node.layer.name := by
      simpa [Node.identity] using hidentity
    rw [Resources.lacks, Resources.lacks, Node.failure, Node.failure, hrole, hid, hname,
      hsupplies.drawings, hsupplies.components]
  rw [← errorOf?_eq_some_iff, herror, errorOf?_eq_some_iff]

/-- A document fails exactly when a visited node lacks something, and then with the failure of the
first such node in document order, whatever else is missing, chosen or hidden. -/
theorem compile_fails_first (context : Context) (root : Node) :
    ((∃ failure, context.compile root = .error failure) ↔
      ∃ visit, Visited root.asRoot visit ∧ context.resources.lacks visit.node) ∧
    (∀ failure, context.compile root = .error failure ↔
      ∃ earlier visit later, root.asRoot.preorder = earlier ++ visit :: later ∧
        (context.resources.lacks visit.node ∧ failure = visit.node.failure) ∧
        ∀ other ∈ earlier, ¬context.resources.lacks other.node) ∧
    ∀ (context' : Context) (root' : Node),
      context.resources.SuppliesAlike context'.resources →
      root.asRoot.preorder.map (·.node.identity) = root'.asRoot.preorder.map (·.node.identity) →
      ∀ failure, context.compile root = .error failure ↔ context'.compile root' = .error failure :=
  ⟨exists_compile_eq_error_iff, fun _ => compile_eq_error_iff,
    fun _ _ => compile_eq_error_congr⟩

end Context

end UtilityMarkup
