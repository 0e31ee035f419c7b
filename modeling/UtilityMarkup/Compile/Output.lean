import UtilityMarkup.Compile.Generate
import UtilityMarkup.Markup.Render

/-!
# Output

The markup of a whole document, with everything that it refers to. Nodes come before the ones
around them in every list of assets and in the stylesheet.
-/

namespace UtilityMarkup

structure Output where
  markup : String
  assets : Assets := {}
  stylesheet : String := ""
deriving DecidableEq, Repr

namespace Output

/-- Puts the outputs of the nodes inside a node into the fragment of the node. -/
def around (fragment : Fragment) (inside : List Output) : Output where
  markup := fragment.render ("\n".intercalate (inside.map (·.markup)))
  assets := inside.foldr (fun output rest => output.assets ++ rest) fragment.assets
  stylesheet :=
    "\n".intercalate ((inside.map (·.stylesheet) ++ [fragment.sheet]).filter (· ≠ ""))

end Output

namespace Context

mutual

/-- The first failing node in document order decides the failure. -/
def compileIn (context : Context) (parent? : Option Parent) : Node → Except Failure Output
  | .mk layer children => do
    let fragment ← context.generate (.mk layer children) parent?
    let inside ←
      if (context.outline (.mk layer children)).hidesChildren then pure []
      else context.compileAll layer.asParent children
    return .around fragment inside

def compileAll (context : Context) (parent : Parent) : List Node → Except Failure (List Output)
  | [] => return []
  | node :: nodes => do
    let output ← context.compileIn (some parent) node
    let outputs ← context.compileAll parent nodes
    return output :: outputs

end

theorem compileAll_eq_mapM (context : Context) (parent : Parent) (nodes : List Node) :
    context.compileAll parent nodes = nodes.mapM (context.compileIn (some parent)) := by
  induction nodes with
  | nil => rfl
  | cons node nodes ih => rw [compileAll, ih, List.mapM_cons]

/-- Compiles a document from its root, which has no parent. -/
def compile (context : Context) (root : Node) : Except Failure Output :=
  context.compileIn none root

end Context

end UtilityMarkup
