import UtilityMarkup.Proofs.GradientClasses
import UtilityMarkup.Proofs.NumberClasses
import UtilityMarkup.Utility.Container

/-!
# Compound classes

Nearly every class is put together from parts, with a dash or an underscore between them. Only
`flex` and the classes that say how a layer is placed are single words.
-/

namespace UtilityMarkup

/-- A class of several parts, or `flex`, or none at all. -/
def IsCompound (text : String) : Prop :=
  text = "" ∨ text = "flex" ∨ '-' ∈ text.toList ∨ '_' ∈ text.toList

instance : DecidablePred IsCompound := fun _ => inferInstanceAs (Decidable (_ ∨ _))

namespace IsCompound

lemma trim {text : String} (h : IsCompound text) : IsCompound (Text.trim text) := by
  rcases h with rfl | rfl | hdash | hscore
  · decide
  · decide
  · exact .inr (.inr (.inl (Text.mem_trim (by decide) hdash)))
  · exact .inr (.inr (.inr (Text.mem_trim (by decide) hscore)))

lemma of_dash (stem value : String) : IsCompound (stem ++ "-" ++ value) :=
  .inr (.inr (.inl (by simp)))

lemma of_mem_ofList {texts : List String} (h : ∀ text ∈ texts, IsCompound text) :
    ∀ entry ∈ (Classes.ofList texts).entries, IsCompound entry := by
  intro entry hentry
  obtain ⟨⟨text, htext, rfl⟩, -⟩ := Classes.mem_entries_ofList_iff.mp hentry
  exact (h text htext).trim

end IsCompound

/-! ### Classes of boxes -/

namespace Vocabulary

variable (vocabulary : Vocabulary)

lemma isCompound_number (quantity : Quantity) (stem : String) (number : Float) :
    IsCompound (vocabulary.number quantity (some stem) number) := by
  cases hzero : number == 0 with
  | true => exact .inl (number_of_zero _ hzero)
  | false =>
    obtain ⟨negative, value, hspells⟩ := exists_spells vocabulary quantity hzero
    rw [hspells stem]
    exact .of_dash _ _

lemma isCompound_size (layer : Layer) (parent? : Option Parent) :
    ∀ text ∈ vocabulary.size layer parent?, IsCompound text := by
  intro text htext
  rcases List.mem_pair.mp htext with rfl | rfl
  · unfold widthClass
    split
    · decide
    · decide
    · exact vocabulary.isCompound_number _ _ _
  · unfold heightClass
    split
    · split <;> decide
    · decide
    · exact vocabulary.isCompound_number _ _ _

lemma isCompound_pair (quantity : Quantity) (stems : PairStems) (first second : Float) :
    ∀ text ∈ vocabulary.pair quantity stems first second, IsCompound text := by
  unfold pair
  split
  · rw [List.forall_mem_singleton]
    exact vocabulary.isCompound_number _ _ _
  · rw [List.forall_mem_cons, List.forall_mem_singleton]
    exact ⟨vocabulary.isCompound_number _ _ _, vocabulary.isCompound_number _ _ _⟩

lemma isCompound_padding (layout : Layout) :
    ∀ text ∈ vocabulary.padding layout, IsCompound text := by
  unfold padding
  split
  · rw [List.forall_mem_append]
    exact ⟨vocabulary.isCompound_pair _ _ _ _, vocabulary.isCompound_pair _ _ _ _⟩
  · simp

lemma isCompound_strokeWeight (weight : StrokeWeight) :
    ∀ text ∈ vocabulary.strokeWeight weight, IsCompound text := by
  cases weight with
  | uniform weight =>
    rw [strokeWeight, List.forall_mem_singleton]
    exact vocabulary.isCompound_number _ _ _
  | mixed weights =>
    rw [strokeWeight, List.forall_mem_append]
    exact ⟨vocabulary.isCompound_pair _ _ _ _, vocabulary.isCompound_pair _ _ _ _⟩

lemma isCompound_cornerRadius (radius : CornerRadius) :
    ∀ text ∈ vocabulary.cornerRadius radius, IsCompound text := by
  cases radius with
  | uniform radius =>
    rw [cornerRadius, List.forall_mem_singleton]
    exact vocabulary.isCompound_number _ _ _
  | mixed radii =>
    rw [cornerRadius, List.forall_mem_append]
    exact ⟨vocabulary.isCompound_pair _ _ _ _, vocabulary.isCompound_pair _ _ _ _⟩

lemma isCompound_flexContainer (layout : Layout) :
    ∀ text ∈ vocabulary.flexContainer layout, IsCompound text := by
  have hflow : IsCompound (if layout.flow = .row then "flex-row" else "flex-col") := by
    split <;> decide
  have hprimary : IsCompound layout.primaryAlign.className := by
    cases layout.primaryAlign <;> decide
  have hcounter : IsCompound layout.counterAlign.className := by
    cases layout.counterAlign <;> decide
  have hspread : IsCompound (if layout.spreadsLines then "content-between" else "") := by
    split <;> decide
  have hwrap : IsCompound (if layout.wraps then "flex-wrap" else "") := by
    split <;> decide
  have hgap := vocabulary.isCompound_number .spacing "gap" layout.gap
  have hlineGap : IsCompound
      ((layout.lineGap?.map (vocabulary.number .spacing (some "gap-y"))).getD "") := by
    cases layout.lineGap? with
    | none => exact .inl rfl
    | some gap => exact vocabulary.isCompound_number .spacing "gap-y" gap
  unfold flexContainer
  split
  · simp only [List.forall_mem_cons]
    exact ⟨by decide, hflow, hprimary, hcounter, hspread, hwrap, hgap, hlineGap, by simp⟩
  · simp

end Vocabulary

lemma isCompound_flexItem (layout : Layout) (parent? : Option Parent) :
    IsCompound (flexItem layout parent?) := by
  unfold flexItem
  split
  · decide
  · split <;> decide

/-! ### Classes of paints -/

lemma Settings.isCompound_color (settings : Settings) (color : Color) (variableName : Option String)
    (stem : String) : IsCompound (settings.color color variableName (some stem)) := by
  obtain ⟨value, hcolor⟩ := settings.exists_color_eq color variableName stem
  rw [hcolor]
  exact .of_dash _ _

namespace Context

variable (context : Context)

lemma isCompound_solid (paint : SolidPaint) (stem : String) :
    IsCompound (context.solid paint (some stem)).text := by
  unfold solid
  rcases context.boundColor? paint with _ | ⟨name, value⟩
  · exact context.settings.isCompound_color paint.ownColor none stem
  · exact context.settings.isCompound_color (value.fade paint.opacity) (some name) stem

lemma isCompound_border (layer : Layer) : ∀ text ∈ context.border layer, IsCompound text := by
  have hdashes : ∀ text ∈ if layer.dashes.any (· != 0) then ["border-dashed"] else [],
      IsCompound text := by
    split
    · rw [List.forall_mem_singleton]
      decide
    · simp
  have hcolor (paint : Paint) :
      ∀ text ∈ (paint.solid?.map fun paint => (context.solid paint (some "border")).text).toList,
        IsCompound text := by
    cases paint.solid? with
    | none => simp
    | some paint =>
      rw [Option.map_some, Option.toList_some, List.forall_mem_singleton]
      exact context.isCompound_solid paint "border"
  cases hstrokes : layer.strokes with
  | nil => simp [border, hstrokes]
  | cons first others =>
    simp only [border, hstrokes, List.forall_mem_append]
    exact ⟨⟨context.vocabulary.isCompound_strokeWeight layer.strokeWeight, hcolor first⟩, hdashes⟩

lemma isCompound_gradientClasses (gradient : Gradient) :
    ∀ text ∈ context.gradientClasses gradient, IsCompound text := by
  have hdirection : IsCompound gradient.directionClass := by
    unfold Gradient.directionClass
    split <;> exact .inr (.inr (.inl (by simp)))
  rw [gradientClasses, List.forall_mem_cons]
  refine ⟨hdirection, fun text htext => ?_⟩
  obtain ⟨⟨role, stop⟩, -, hstop⟩ := List.mem_flatMap.mp htext
  dsimp only at hstop
  rw [stopClasses_eq, List.mem_cons] at hstop
  rcases hstop with rfl | hposition
  · exact context.settings.isCompound_color _ _ _
  · split at hposition
    · obtain rfl := List.mem_singleton.mp hposition
      exact .of_dash _ _
    · cases hposition

lemma isCompound_registered (layer : Layer) {name : String} {onText : List String}
    (hname : IsCompound name) (honText : ∀ text ∈ onText, IsCompound text) :
    ∀ entry ∈ (context.registered layer name onText).classes.entries, IsCompound entry := by
  unfold registered
  split
  · refine IsCompound.of_mem_ofList ?_
    rw [List.forall_mem_cons]
    refine ⟨hname, ?_⟩
    split
    · exact honText
    · simp
  · simp [Classes.empty]

lemma isCompound_fillStyling (layer : Layer) (fills : List Paint) :
    ∀ entry ∈ (context.fillStyling layer fills).classes.entries, IsCompound entry := by
  have hending {ending : String} (h : '_' ∈ ending.toList) :
      IsCompound (layer.utilityName ++ ending) :=
    .inr (.inr (.inr (by simp [h])))
  have hclip : ∀ text ∈ ["w-fit", clipToText], IsCompound text := by
    decide
  unfold fillStyling
  cases Backdrop.ofFills fills with
  | bare => simp [Classes.empty]
  | plain paint =>
    refine IsCompound.of_mem_ofList ?_
    rw [List.forall_mem_singleton]
    exact context.isCompound_solid paint _
  | gradient paint =>
    refine IsCompound.of_mem_ofList ?_
    rw [List.forall_mem_append]
    refine ⟨context.isCompound_gradientClasses paint, ?_⟩
    split
    · exact hclip
    · simp
  | complexGradient => exact context.isCompound_registered layer (hending (by decide)) hclip
  | layered =>
    exact context.isCompound_registered layer (hending (by decide))
      fun text htext => hclip text (List.mem_cons_of_mem _ htext)

end Context

end UtilityMarkup
