import UtilityMarkup.Proofs.DeliverySources

/-!
# Independence of settings

The settings have no part in the colors and in the stylesheet of a document, nor in whether it
compiles, and of all settings only the picture paths have a part in its pictures. What the settings
decide are class names, tags and paths.
-/

namespace UtilityMarkup

namespace Context

section Settings

variable (resources : Resources) (settings settings' : Settings)

lemma delivery_colors_settings (node : Node) :
    (delivery ⟨resources, settings⟩ node).colors =
      (delivery ⟨resources, settings'⟩ node).colors :=
  delivery_colors_congr (by rfl) node

lemma delivery_sheet_settings (node : Node) :
    (delivery ⟨resources, settings⟩ node).sheet = (delivery ⟨resources, settings'⟩ node).sheet :=
  delivery_sheet_congr (by rfl) node

lemma delivery_pictures_settings (hpictures : settings.pictures = settings'.pictures)
    (node : Node) :
    (delivery ⟨resources, settings⟩ node).pictures =
      (delivery ⟨resources, settings'⟩ node).pictures :=
  delivery_pictures_congr (by rfl) hpictures node

/-- Two settings under which every node delivers the same to an observation give it the same of
every document. -/
lemma compile_settings {γ δ : Type} (observation : Observation γ δ) (observe : Delivery → δ)
    (hobserve : ∀ fragment, observation.ofFragment fragment = observe fragment.delivery)
    (hdelivery : ∀ node, observe (delivery ⟨resources, settings⟩ node) =
      observe (delivery ⟨resources, settings'⟩ node)) (root : Node) :
    (compile ⟨resources, settings⟩ root).map observation.ofOutput =
      (compile ⟨resources, settings'⟩ root).map observation.ofOutput :=
  compile_congr_of_delivery observation observe hobserve (fun _ => by rfl) hdelivery root

end Settings

/-- The settings decide neither whether a document compiles nor what its colors and its stylesheet
are, and its pictures depend on the picture paths alone. -/
theorem compile_independent_of_settings (resources : Resources) (settings settings' : Settings)
    (root : Node) :
    (∃ failure, compile ⟨resources, settings⟩ root = .error failure ∧
      compile ⟨resources, settings'⟩ root = .error failure) ∨
    ∃ output output', compile ⟨resources, settings⟩ root = .ok output ∧
      compile ⟨resources, settings'⟩ root = .ok output' ∧
      output.assets.colors = output'.assets.colors ∧ output.stylesheet = output'.stylesheet ∧
      (settings.pictures = settings'.pictures →
        output.assets.pictures = output'.assets.pictures) := by
  have hcolors := compile_settings resources settings settings' .colors (·.colors) (fun _ => rfl)
    (delivery_colors_settings resources settings settings') root
  have hsheet := compile_settings resources settings settings' .stylesheet (·.sheet) (fun _ => rfl)
    (delivery_sheet_settings resources settings settings') root
  have hpictures (h : settings.pictures = settings'.pictures) :=
    compile_settings resources settings settings' .pictures (·.pictures) (fun _ => rfl)
      (delivery_pictures_settings resources settings settings' h) root
  obtain ⟨failure, hfailure, hfailure'⟩ | ⟨output, output', houtput, houtput', hsame⟩ :=
    map_eq_map_iff.mp hcolors
  · exact .inl ⟨failure, hfailure, hfailure'⟩
  · rw [houtput, houtput'] at hsheet hpictures
    exact .inr ⟨output, output', houtput, houtput', hsame, Except.ok.inj hsheet,
      fun h => Except.ok.inj (hpictures h)⟩

end Context

end UtilityMarkup
