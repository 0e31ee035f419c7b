import UtilityMarkup.Proofs.Visits

/-!
# Observations

An observation is a part of outputs that can be computed from a part of fragments. Two contexts
whose fragments agree in that part, and fail alike, have outputs that agree in it, and fail alike.
-/

namespace UtilityMarkup

structure Observation (γ δ : Type) where
  ofOutput : Output → γ
  ofFragment : Fragment → δ
  combine : δ → List γ → γ
  ofOutput_around : ∀ fragment inside,
    ofOutput (.around fragment inside) = combine (ofFragment fragment) (inside.map ofOutput)

namespace Observation

def colors : Observation (List NamedColor) (List NamedColor) where
  ofOutput := (·.assets.colors)
  ofFragment := (·.assets.colors)
  combine own inside := inside.flatten ++ own
  ofOutput_around fragment inside := by
    rw [Output.colors_around, List.flatMap_def]

def pictures : Observation (List PictureAsset) (List PictureAsset) where
  ofOutput := (·.assets.pictures)
  ofFragment := (·.assets.pictures)
  combine own inside := inside.flatten ++ own
  ofOutput_around fragment inside := by
    rw [Output.pictures_around, List.flatMap_def]

def stylesheet : Observation String String where
  ofOutput := (·.stylesheet)
  ofFragment := (·.sheet)
  combine own inside := "\n".intercalate ((inside ++ [own]).filter (· ≠ ""))
  ofOutput_around _ _ := rfl

/-- Of a fragment, the markup that it makes around the markup inside it. -/
def markup : Observation String (String → String) where
  ofOutput := (·.markup)
  ofFragment fragment inside := fragment.render inside
  combine own inside := own ("\n".intercalate inside)
  ofOutput_around _ _ := rfl

/-- Two observations made together. -/
def prod {γ δ γ' δ' : Type} (first : Observation γ δ) (second : Observation γ' δ') :
    Observation (γ × γ') (δ × δ') where
  ofOutput output := (first.ofOutput output, second.ofOutput output)
  ofFragment fragment := (first.ofFragment fragment, second.ofFragment fragment)
  combine own inside :=
    (first.combine own.1 (inside.map (·.1)), second.combine own.2 (inside.map (·.2)))
  ofOutput_around fragment inside := by
    rw [first.ofOutput_around, second.ofOutput_around, List.map_map, List.map_map]
    rfl

section Runs

variable {γ δ : Type} (observation : Observation γ δ) {context context' : Context}

/-- An observed output is obtained from the observed fragment and the outputs observed inside. -/
lemma map_compileAt (context : Context) (visit : Visit) :
    (context.compileAt visit).map observation.ofOutput = (do
      let own ← (context.generateAt visit).map observation.ofFragment
      let inside ← visit.inside.mapM fun inner =>
        (context.compileAt inner).map observation.ofOutput
      return observation.combine own inside) := by
  rw [Context.compileAt_eq, ← map_mapM]
  cases context.generateAt visit with
  | error failure => rfl
  | ok fragment =>
    cases visit.inside.mapM context.compileAt with
    | error failure => rfl
    | ok inside => exact congrArg Except.ok (observation.ofOutput_around fragment inside)

theorem compileAt_congr
    (h : ∀ visit, (context.generateAt visit).map observation.ofFragment =
      (context'.generateAt visit).map observation.ofFragment) (visit : Visit) :
    (context.compileAt visit).map observation.ofOutput =
      (context'.compileAt visit).map observation.ofOutput := by
  induction visit using Visit.induction with
  | step visit ih => rw [map_compileAt, map_compileAt, h, mapM_congr ih]

end Runs

end Observation

end UtilityMarkup
