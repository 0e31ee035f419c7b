import Mathlib.Data.List.Infix
import UtilityMarkup.Text.Search

/-!
# First occurrences

Splitting a text finds a pattern where it occurs for the first time. This is decided by what stands
in front of the occurrence, so text that changes behind it is split at the same place.
-/

namespace UtilityMarkup.Text

variable {pattern before after text : List Char}

/-- A pattern that follows this text occurs there for the first time. -/
def StandsFirst (pattern before : List Char) : Prop :=
  ∀ other, other ++ pattern <+: before ++ pattern → other = before

lemma standsFirst_nil (pattern : List Char) : StandsFirst pattern [] := by
  intro other hother
  have hlength := hother.length_le
  rw [List.length_append, List.nil_append] at hlength
  exact List.eq_nil_of_length_eq_zero (by omega)

lemma standsFirst_cons_iff {c : Char} (h : ¬pattern <+: c :: (before ++ pattern)) :
    StandsFirst pattern (c :: before) ↔ StandsFirst pattern before := by
  constructor
  · intro hfirst other hother
    exact (List.cons.inj (hfirst (c :: other) ((List.prefix_cons_inj c).mpr hother))).2
  · intro hfirst other hother
    cases other with
    | nil => exact absurd hother h
    | cons d other =>
      obtain ⟨rfl, hrest⟩ := List.cons_prefix_cons.mp hother
      rw [hfirst other hrest]

/-- Nothing stands in front of a first occurrence if the pattern starts the text. -/
lemma StandsFirst.eq_nil (hfirst : StandsFirst pattern before)
    (h : pattern <+: before ++ pattern ++ after) : before = [] := by
  have hfront : pattern <+: before ++ pattern :=
    List.prefix_of_prefix_length_le h (List.prefix_append _ _) (by simp)
  exact (hfirst [] hfront).symm

theorem splitAt?_eq_some_iff :
    splitAt? pattern text = some (before, after) ↔
      text = before ++ pattern ++ after ∧ StandsFirst pattern before := by
  induction text generalizing before with
  | nil =>
    rw [splitAt?]
    constructor
    · intro h
      split at h
      · rename_i hempty
        cases h
        exact ⟨by simp [hempty], standsFirst_nil pattern⟩
      · cases h
    · rintro ⟨htext, -⟩
      obtain ⟨hfront, rfl⟩ := List.append_eq_nil_iff.mp htext.symm
      obtain ⟨rfl, rfl⟩ := List.append_eq_nil_iff.mp hfront
      rfl
  | cons c rest ih =>
    rw [splitAt?]
    by_cases hhere : pattern <+: c :: rest
    · rw [if_pos hhere]
      constructor
      · intro h
        cases h
        obtain ⟨tail, htail⟩ := hhere
        exact ⟨by simp [← htail], standsFirst_nil pattern⟩
      · rintro ⟨htext, hfirst⟩
        obtain rfl := hfirst.eq_nil (htext ▸ hhere)
        rw [htext, List.nil_append, List.drop_left]
    · have hlater {front : List Char} (hrest : rest = front ++ pattern ++ after) :
          ¬pattern <+: c :: (front ++ pattern) := fun hfront =>
        hhere (hfront.trans ⟨after, by rw [hrest, List.cons_append]⟩)
      rw [if_neg hhere]
      constructor
      · intro h
        obtain ⟨⟨before', after'⟩, hrest, heq⟩ := Option.map_eq_some_iff.mp h
        cases heq
        obtain ⟨hrest, hfirst⟩ := ih.mp hrest
        exact ⟨by simp [hrest], (standsFirst_cons_iff (hlater hrest)).mpr hfirst⟩
      · rintro ⟨htext, hfirst⟩
        cases before with
        | nil => exact absurd (htext ▸ List.prefix_append pattern after) hhere
        | cons d before =>
          obtain ⟨rfl, hrest⟩ := List.cons.inj htext
          rw [ih.mpr ⟨hrest, (standsFirst_cons_iff (hlater hrest)).mp hfirst⟩]
          rfl

theorem splitAt?_eq_none_iff : splitAt? pattern text = none ↔ ¬pattern <:+: text := by
  induction text with
  | nil => simp [splitAt?]
  | cons c rest ih =>
    rw [splitAt?, List.infix_cons_iff, not_or]
    by_cases hhere : pattern <+: c :: rest
    · simp [hhere]
    · rw [if_neg hhere, Option.map_eq_none_iff, ih, and_iff_right hhere]

end UtilityMarkup.Text
