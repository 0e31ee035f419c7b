import Mathlib.Data.List.Induction
import UtilityMarkup.Proofs.NumberClasses
import UtilityMarkup.Proofs.NumberSigns
import UtilityMarkup.Proofs.Tables

/-!
# Lookups in scales

A scale is built from pairs of numbers and names, given at once or one by one. It names exactly the
numbers of its pairs, each by the last pair for it, and its size is the number of different ones. So
the pairs decide the class of every number but zero: the name of its magnitude with its sign in
front of the stem, or its literal where no pair names it.
-/

namespace UtilityMarkup

namespace Number

/-- The numbers have the same bits, or both are zeros. -/
def Coincide (value other : Float) : Prop :=
  value.toBits = other.toBits ∨ (value == 0) = true ∧ (other == 0) = true

instance (value other : Float) : Decidable (Coincide value other) :=
  inferInstanceAs (Decidable (_ ∨ _))

lemma eq_of_toBits_eq {value other : Float} (h : value.toBits = other.toBits) : value = other := by
  obtain ⟨⟨bits, hvalid⟩⟩ := value
  obtain ⟨⟨bits', hvalid'⟩⟩ := other
  obtain rfl : bits = bits' := h
  rfl

end Number

namespace Scale

variable {pairs : List (Float × String)} {scale : Scale} {value other : Float} {name : String}

/-! ### Keys -/

/-- The key that both zeros have is not the key of any other number. -/
lemma key_eq_zero_iff : key value = 0 ↔ (value == 0) = true := by
  refine ⟨fun h => ?_, fun h => if_pos h⟩
  by_contra hzero
  rw [key, if_neg hzero] at h
  have hvalue : value = 0 := Number.eq_of_toBits_eq (h.trans (by decide))
  rw [hvalue] at hzero
  exact hzero (by decide)

theorem key_eq_key_iff : key value = key other ↔ Number.Coincide value other := by
  by_cases hvalue : (value == 0) = true
  · have hkey : key value = 0 := key_eq_zero_iff.mpr hvalue
    rw [hkey, eq_comm, key_eq_zero_iff]
    constructor
    · exact fun hother => .inr ⟨hvalue, hother⟩
    · rintro (hbits | ⟨-, hother⟩)
      · exact Number.eq_of_toBits_eq hbits ▸ hvalue
      · exact hother
  · constructor
    · intro h
      have hother : ¬(other == 0) = true := by
        rwa [← key_eq_zero_iff, ← h, key_eq_zero_iff]
      rw [key, if_neg hvalue, key, if_neg hother] at h
      exact .inl h
    · rintro (hbits | ⟨hzero, -⟩)
      · rw [Number.eq_of_toBits_eq hbits]
      · exact absurd hzero hvalue

/-! ### Building -/

/-- The scale is built from these pairs, in their order. -/
inductive Built : List (Float × String) → Scale → Prop
  | atOnce (pairs : List (Float × String)) : Built pairs (ofPairs pairs)
  | oneMore {pairs : List (Float × String)} {scale : Scale} (built : Built pairs scale)
    (value : Float) (name : String) : Built (pairs ++ [(value, name)]) (scale.insert value name)

lemma ofPairs_concat (pairs : List (Float × String)) (value : Float) (name : String) :
    ofPairs (pairs ++ [(value, name)]) = (ofPairs pairs).insert value name := by
  rw [ofPairs, List.foldl_append]
  rfl

/-- It makes no difference whether pairs are given at once or one by one. -/
lemma Built.eq_ofPairs (h : Built pairs scale) : scale = ofPairs pairs := by
  induction h with
  | atOnce pairs => rfl
  | oneMore built value name ih => rw [ofPairs_concat, ih]

/-! ### What is found -/

/-- The last of the pairs for a number has this name. -/
def LastNames (pairs : List (Float × String)) (value : Float) (name : String) : Prop :=
  ∃ before given later, pairs = before ++ (given, name) :: later ∧ Number.Coincide given value ∧
    ∀ pair ∈ later, ¬Number.Coincide pair.1 value

lemma find?_ofPairs_eq_some_iff :
    (ofPairs pairs).find? value = some name ↔ LastNames pairs value name := by
  simp only [find?_ofPairs, Option.map_eq_some_iff, find?_reverse_eq_some_iff, decide_eq_true_iff,
    decide_eq_false_iff_not, key_eq_key_iff]
  constructor
  · rintro ⟨⟨given, _⟩, ⟨hgiven, before, later, hpairs, hlater⟩, rfl⟩
    exact ⟨before, given, later, hpairs, hgiven, hlater⟩
  · rintro ⟨before, given, later, hpairs, hgiven, hlater⟩
    exact ⟨(given, name), ⟨hgiven, before, later, hpairs, hlater⟩, rfl⟩

lemma find?_ofPairs_eq_none_iff :
    (ofPairs pairs).find? value = none ↔ ∀ pair ∈ pairs, ¬Number.Coincide pair.1 value := by
  simp [find?_ofPairs, key_eq_key_iff]

/-! ### Size -/

/-- Each pair adds the key of its number to the scale, unless a pair before it did. -/
lemma mem_names_ofPairs_iff {bits : UInt64} :
    bits ∈ (ofPairs pairs).names ↔ bits ∈ pairs.map fun pair => key pair.1 := by
  induction pairs using List.reverseRecOn with
  | nil => simp [ofPairs, empty]
  | append_singleton pairs pair ih =>
    obtain ⟨value, name⟩ := pair
    rw [ofPairs_concat, insert, Std.ExtTreeMap.mem_insert, Std.LawfulEqCmp.compare_eq_iff_eq, ih,
      List.map_append, List.mem_append, List.map_singleton, List.mem_singleton, eq_comm, or_comm]

lemma size_ofPairs (pairs : List (Float × String)) :
    (ofPairs pairs).size = (pairs.map fun pair => key pair.1).toFinset.card := by
  have hkeys : (ofPairs pairs).names.keys.toFinset =
      (pairs.map fun pair => key pair.1).toFinset := by
    ext bits
    rw [List.mem_toFinset, List.mem_toFinset, Std.ExtTreeMap.mem_keys, mem_names_ofPairs_iff]
  rw [← hkeys, card_toFinset_keys, size]

/-- Numbers have the same key when they have the same bits or both are zeros. A scale that is built
from pairs finds the name in the last pair for a number, and none when no pair is for it; its size is
the number of different keys of its pairs. A quantity that the scale is for gives every number but
zero the name of its magnitude, with its sign in front of the stem and without a sign where there is
no stem. Without such a name the class has the literal of the number, in brackets behind a stem, and
the sign stands in the literal. -/
theorem built_names_last (hbuilt : Built pairs scale) :
    (∀ value other, key value = key other ↔ Number.Coincide value other) ∧
    (∀ value name, scale.find? value = some name ↔ LastNames pairs value name) ∧
    (∀ value, scale.find? value = none ↔ ∀ pair ∈ pairs, ¬Number.Coincide pair.1 value) ∧
    scale.size = (pairs.map fun pair => key pair.1).toFinset.card ∧
    ∀ (vocabulary : Vocabulary) (quantity : Quantity), vocabulary.scale? quantity = some scale →
      ∀ number : Float, (number == 0) = false →
        (∀ name, LastNames pairs number.abs name →
          (∀ stem, vocabulary.number quantity (some stem) number =
            Number.signText (decide (number < 0)) ++ stem ++ "-" ++ name) ∧
          vocabulary.number quantity none number = name) ∧
        ((∀ pair ∈ pairs, ¬Number.Coincide pair.1 number.abs) →
          (∀ stem, vocabulary.number quantity (some stem) number =
            stem ++ "-[" ++ Number.literal number ++ "px]") ∧
          vocabulary.number quantity none number = Number.literal number) ∧
        Number.literal number =
          Number.signText (decide (number < 0)) ++ Number.literal number.abs := by
  obtain rfl := hbuilt.eq_ofPairs
  refine ⟨fun _ _ => key_eq_key_iff, fun _ _ => find?_ofPairs_eq_some_iff,
    fun _ => find?_ofPairs_eq_none_iff, size_ofPairs pairs,
    fun vocabulary quantity hscale number hzero => ⟨fun name hlast => ?_, fun hunnamed => ?_,
      Number.literal_eq_signText_append number⟩⟩
  · have hname := find?_ofPairs_eq_some_iff.mpr hlast
    exact ⟨Vocabulary.spells_of_find? hzero hscale hname,
      Vocabulary.number_none_of_find? hzero hscale hname⟩
  · have hname := find?_ofPairs_eq_none_iff.mpr hunnamed
    refine ⟨fun stem => ?_, Vocabulary.number_none_of_find?_eq_none hzero hscale hname⟩
    rw [Vocabulary.spells_of_find?_eq_none hzero hscale hname stem]
    simp [Number.signText, String.ext_iff]

def gapPairs : List (Float × String) :=
  [(8, "md"), (-0.0, "flush"), (8, "sm")]

def gapScale : Scale :=
  (ofPairs gapPairs).insert 0 "none"

def gapVocabulary : Vocabulary :=
  { Vocabulary.empty with spacing := gapScale }

theorem built_names_last_gaps :
    Built (gapPairs ++ [(0, "none")]) gapScale ∧
      gapVocabulary.scale? .spacing = some gapScale ∧
      gapScale.find? 8 = some "sm" ∧ gapScale.find? (-0.0) = some "none" ∧
      gapScale.find? 17 = none ∧ gapScale.size = 2 ∧
      gapVocabulary.number .spacing (some "gap") (-8) = "-gap-sm" ∧
      gapVocabulary.number .spacing none (-8) = "sm" ∧
      gapVocabulary.number .spacing (some "gap") (-17) = "gap-[-17px]" := by
  have hbuilt : Built (gapPairs ++ [(0, "none")]) gapScale :=
    (Built.atOnce gapPairs).oneMore 0 "none"
  have hscale : gapVocabulary.scale? .spacing = some gapScale := rfl
  obtain ⟨-, hnamed, hunnamed, hsize, hnumber⟩ := built_names_last hbuilt
  have hsmall : LastNames (gapPairs ++ [(0, "none")]) 8 "sm" :=
    ⟨gapPairs.take 2, 8, [(0, "none")], rfl, by decide, by decide⟩
  have hnone : LastNames (gapPairs ++ [(0, "none")]) (-0.0) "none" :=
    ⟨gapPairs, 0, [], rfl, by decide, by decide⟩
  have habs : (-8 : Float).abs = 8 := Number.eq_of_toBits_eq (by decide)
  obtain ⟨hstem, hbare⟩ :=
    (hnumber gapVocabulary .spacing hscale (-8) (by decide)).1 "sm" (habs ▸ hsmall)
  obtain ⟨hliteral, -⟩ :=
    (hnumber gapVocabulary .spacing hscale (-17) (by decide)).2.1 (by decide)
  exact ⟨hbuilt, hscale, (hnamed _ _).mpr hsmall, (hnamed _ _).mpr hnone,
    (hunnamed _).mpr (by decide), hsize.trans (by decide), (hstem "gap").trans (by decide), hbare,
    (hliteral "gap").trans (by decide)⟩

end Scale

end UtilityMarkup
