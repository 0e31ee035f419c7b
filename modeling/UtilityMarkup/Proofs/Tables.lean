import Mathlib.Data.Set.Card
import Std.Data.ExtTreeMap

/-!
# Tables

A table is written entry by entry. What is written for a key last is what stays, and the size of a
table is the number of keys that something was written for.
-/

namespace UtilityMarkup

/-- The last element with a property has only elements without it behind it. -/
lemma find?_reverse_eq_some_iff {α : Type} {p : α → Bool} {xs : List α} {last : α} :
    xs.reverse.find? p = some last ↔
      p last ∧ ∃ before later, xs = before ++ last :: later ∧ ∀ x ∈ later, p x = false := by
  rw [List.find?_eq_some_iff_append]
  refine and_congr_right fun _ => ?_
  constructor
  · rintro ⟨later, before, hxs, hlater⟩
    rw [List.reverse_eq_iff] at hxs
    exact ⟨before.reverse, later.reverse, by simpa using hxs, by simpa using hlater⟩
  · rintro ⟨before, later, rfl, hlater⟩
    exact ⟨later.reverse, before.reverse, by simp, by simpa using hlater⟩

section Size

variable {κ β : Type} [Ord κ] [Std.TransOrd κ] (table : Std.ExtTreeMap κ β)

lemma card_toFinset_keys [DecidableEq κ] : table.keys.toFinset.card = table.size := by
  rw [List.toFinset_card_of_nodup Std.ExtTreeMap.nodup_keys, Std.ExtTreeMap.length_keys]

lemma encard_mem [Std.LawfulEqOrd κ] : {key | key ∈ table}.encard = table.size := by
  classical
  have hkeys : {key | key ∈ table} = (table.keys.toFinset : Set κ) := by
    ext key
    simp
  rw [hkeys, Set.encard_coe_eq_coe_finsetCard, card_toFinset_keys]

end Size

end UtilityMarkup
