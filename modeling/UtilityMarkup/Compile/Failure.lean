/-!
# Failures

The two reasons for which a document cannot be compiled. Everything else that may be missing only
leaves its trace in the output.
-/

namespace UtilityMarkup

inductive Failure where
  /-- The component of an instance is unknown. -/
  | unknownComponent (node : String)
  /-- The application could not draw a node, for the reason it gives. -/
  | notDrawn (node reason : String)
deriving DecidableEq, Repr

namespace Failure

/-- The name of the node at fault. -/
def node : Failure → String
  | unknownComponent node => node
  | notDrawn node _ => node

def message : Failure → String
  | unknownComponent node => "cannot resolve the main component of instance `" ++ node ++ "`"
  | notDrawn node reason => "vector export failed for `" ++ node ++ "`: " ++ reason

end Failure

end UtilityMarkup
