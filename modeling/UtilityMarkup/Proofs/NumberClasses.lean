import UtilityMarkup.Proofs.Words
import UtilityMarkup.Utility.Naming

/-!
# Classes of numbers

Every number but zero has a class, whatever the vocabulary. The class is put together from a sign,
the stem, a dash and a value, and the sign and the value are the same for every stem. Zero has no
class.
-/

namespace UtilityMarkup

namespace Number

lemma isWord_sign_append (negative : Bool) {stem : String} (hstem : Text.IsWord stem) :
    Text.IsWord (signText negative ++ stem ++ "-") where
  ne_empty := by simp
  unbroken := ((unbroken_signText negative).append hstem.unbroken).append (by decide)

end Number

namespace Vocabulary

variable {vocabulary : Vocabulary} {quantity : Quantity} {number : Float} {negative : Bool}
  {value : String}

/-- The number is written with this sign in front of the stem and with this value behind it. -/
def Spells (vocabulary : Vocabulary) (quantity : Quantity) (number : Float) (negative : Bool)
    (value : String) : Prop :=
  ∀ stem, vocabulary.number quantity (some stem) number =
    Number.signText negative ++ stem ++ "-" ++ value

lemma number_of_zero (stem : Option String) (h : (number == 0) = true) :
    vocabulary.number quantity stem number = "" := by
  rw [Vocabulary.number, if_pos h]

section Scale

variable {scale : Scale} {name : String}

/-- The sign of a number with a name stands in front of the stem. -/
lemma spells_of_find? (hzero : (number == 0) = false)
    (hscale : vocabulary.scale? quantity = some scale) (hname : scale.find? number.abs = some name) :
    vocabulary.Spells quantity number (decide (number < 0)) name := by
  intro stem
  rw [Vocabulary.number, if_neg (by simp [hzero]), hscale]
  simp only [hname, Number.signText, decide_eq_true_eq]

/-- The sign of a number without a name stays in its literal. -/
lemma spells_of_find?_eq_none (hzero : (number == 0) = false)
    (hscale : vocabulary.scale? quantity = some scale) (hname : scale.find? number.abs = none) :
    vocabulary.Spells quantity number false ("[" ++ Number.literal number ++ "px]") := by
  intro stem
  rw [Vocabulary.number, if_neg (by simp [hzero]), hscale]
  simp [hname, Number.signText, String.ext_iff]

/-- Without a stem the sign of a number with a name is lost. -/
lemma number_none_of_find? (hzero : (number == 0) = false)
    (hscale : vocabulary.scale? quantity = some scale) (hname : scale.find? number.abs = some name) :
    vocabulary.number quantity none number = name := by
  rw [Vocabulary.number, if_neg (by simp [hzero]), hscale]
  simp only [hname]

lemma number_none_of_find?_eq_none (hzero : (number == 0) = false)
    (hscale : vocabulary.scale? quantity = some scale) (hname : scale.find? number.abs = none) :
    vocabulary.number quantity none number = Number.literal number := by
  rw [Vocabulary.number, if_neg (by simp [hzero]), hscale]
  simp only [hname]

end Scale

lemma exists_spells (vocabulary : Vocabulary) (quantity : Quantity) (h : (number == 0) = false) :
    ∃ negative value, vocabulary.Spells quantity number negative value := by
  cases hscale : vocabulary.scale? quantity with
  | none =>
    refine ⟨decide (number < 0), Number.literal number.abs, fun stem => ?_⟩
    rw [Vocabulary.number, if_neg (by simp [h]), hscale]
    simp only [Number.signText, decide_eq_true_eq]
  | some scale =>
    cases hname : scale.find? number.abs with
    | some name => exact ⟨_, _, spells_of_find? h hscale hname⟩
    | none => exact ⟨_, _, spells_of_find?_eq_none h hscale hname⟩

/-- A class list keeps the class of a number, without the blanks in which its name may end. -/
lemma entries_of_spells {stem : String} (hstem : Text.IsWord stem)
    (h : vocabulary.Spells quantity number negative value) :
    (Classes.ofList [vocabulary.number quantity (some stem) number]).entries =
      [Number.signText negative ++ stem ++ "-" ++ Text.trimEnd value] := by
  have hword := Number.isWord_sign_append negative hstem
  rw [h stem, Classes.entries_ofList_of_trim_ne_empty, List.map_singleton, Text.trim_append hword]
  exact fun text htext => by
    rw [List.mem_singleton.mp htext]
    exact Text.trim_append_ne_empty hword value

lemma entries_of_zero (stem : String) (h : (number == 0) = true) :
    (Classes.ofList [vocabulary.number quantity (some stem) number]).entries = [] := by
  rw [number_of_zero _ h]
  rfl

end Vocabulary

end UtilityMarkup
