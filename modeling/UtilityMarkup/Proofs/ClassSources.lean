import UtilityMarkup.Proofs.ColorPriority
import UtilityMarkup.Proofs.PictureEntries

/-!
# Sources of classes

Every class of an element comes from a solid paint or from something that no design variable has a
part in. The sources of the classes of a node are known without its variables; from the sources and
the variables follow the classes.
-/

namespace UtilityMarkup

/-- What a class is made from. -/
inductive ClassSource where
  /-- A text that is the same whatever the design variables are. -/
  | fixed (text : String)
  | fill (stem : String) (paint : SolidPaint)
  | stroke (paint : SolidPaint)

def ClassSource.text (context : Context) : ClassSource → String
  | fixed text => text
  | fill stem paint => (context.solid paint (some stem)).text
  | stroke paint => (context.solid paint (some "border")).text

namespace Fragment

def className? : Fragment → Option String
  | raw _ _ => none
  | element head _ _ => some head.className

end Fragment

namespace Context

/-- The classes that come from the sources. -/
def classesFrom (context : Context) (sources : List ClassSource) : Classes :=
  .ofList (sources.map (·.text context))

/-! ### Sources by role -/

def runSources (context : Context) (run : TextRun) : List ClassSource :=
  (context.settings.typography run).entries.map .fixed ++
    (run.fills.filterMap Paint.solid?).map (.fill "text")

variable {context : Context} {layer : Layer} {fills : List Paint} {visit : Visit}

/-! ### Sources give the classes -/

lemma classesFrom_append (sources more : List ClassSource) :
    context.classesFrom (sources ++ more) =
      context.classesFrom sources ++ context.classesFrom more := by
  rw [classesFrom, List.map_append, Classes.ofList_append]
  rfl

lemma classesFrom_fixed (texts : List String) :
    context.classesFrom (texts.map .fixed) = .ofList texts := by
  rw [classesFrom, List.map_map]
  congr 1
  exact List.map_id texts

lemma classesFrom_fixed_entries (classes : Classes) :
    context.classesFrom (classes.entries.map .fixed) = classes := by
  rw [classesFrom_fixed, Classes.ofList_entries]

lemma classesFrom_runSources (run : TextRun) :
    context.classesFrom (context.runSources run) = (context.run run).classes := by
  rw [runSources, Context.run, classesFrom_append, classesFrom_fixed_entries, classesFrom,
    List.map_map, List.map_map]
  rfl

lemma className?_runFragment (run : TextRun) :
    (context.runFragment run).className? =
      some (context.classesFrom (context.runSources run)).text := by
  rw [classesFrom_runSources]
  simp only [runFragment, Fragment.className?]

section Variables

variable (context : Context) (designVariables : Std.ExtTreeMap String Variable)

end Variables

end Context

end UtilityMarkup
