import UtilityMarkup.Proofs.Words
import UtilityMarkup.Text.CaseFold

/-!
# Case of hex digits

Folding case brings a character to a hex digit, or to the `#` in front of the digits, just when its
ASCII lower case is that character. So a hex is found in a text in those spellings only that differ
from it in the case of ASCII letters.
-/

namespace UtilityMarkup.Text

def SameUpToCase (a b : List Char) : Prop :=
  a.map Char.toLower = b.map Char.toLower

instance (a b : List Char) : Decidable (SameUpToCase a b) :=
  inferInstanceAs (Decidable (a.map Char.toLower = b.map Char.toLower))

def hexChars : List Char :=
  '#' :: Color.hexDigits

lemma mem_hexChars {digits : List Char} (hdigits : ∀ d ∈ digits, d ∈ Color.hexDigits) :
    ∀ c ∈ '#' :: digits, c ∈ hexChars := by
  rw [List.forall_mem_cons]
  exact ⟨List.mem_cons_self, fun d hd => List.mem_cons_of_mem _ (hdigits d hd)⟩

lemma toLower_of_mem_hexChars {d : Char} (hd : d ∈ hexChars) : d.toLower = d := by
  have hall : ∀ d ∈ hexChars, d.toLower = d := by
    rw [← List.forall_iff_forall_mem]
    decide
  exact hall d hd

lemma toLower_mem_hexChars {place pattern : List Char} (hpattern : ∀ d ∈ pattern, d ∈ hexChars)
    (h : SameUpToCase place pattern) : ∀ c ∈ place, c.toLower ∈ hexChars := by
  intro c hc
  have hlower : c.toLower ∈ pattern.map Char.toLower := h ▸ List.mem_map_of_mem (f := Char.toLower) hc
  obtain ⟨d, hd, heq⟩ := List.mem_map.mp hlower
  rw [← heq, toLower_of_mem_hexChars (hpattern d hd)]
  exact hpattern d hd

lemma utf8Size_of_toLower_mem {c : Char} (hc : c.toLower ∈ hexChars) : c.utf8Size = 1 := by
  have hsize : ∀ d ∈ hexChars, d.utf8Size = 1 := by
    rw [← List.forall_iff_forall_mem]
    decide
  exact toLower_cases (motive := fun c lower => lower ∈ hexChars → c.utf8Size = 1) (by decide)
    (fun c _ => hsize c) c hc

/-! ### Folded case -/

/-- Beside the ASCII capitals nothing folds to a hex digit but the digit itself. -/
lemma caseFoldRuns_avoid_hexChars : ∀ run ∈ caseFoldRuns.tail, ∀ d ∈ hexChars,
    ¬((run.first : Int) + run.shift ≤ d.toNat ∧ d.toNat ≤ (run.last : Int) + run.shift) := by
  intro run hrun
  rw [← List.forall_iff_forall_mem]
  revert run
  decide +kernel

lemma foldCase_of_mem_hexChars {d : Char} (hd : d ∈ hexChars) : foldCase d = d := by
  have hall : ∀ d ∈ hexChars, foldCase d = d := by
    rw [← List.forall_iff_forall_mem]
    decide +kernel
  exact hall d hd

lemma foldCase_capital {c : Char} (hc : 65 ≤ c.toNat ∧ c.toNat ≤ 90) : foldCase c = c.toLower := by
  have hall : ∀ n ∈ List.range' 65 26, foldCase (.ofNat n) = (Char.ofNat n).toLower := by
    decide +kernel
  have hchar := hall c.toNat (by rw [List.mem_range'_1]; omega)
  rwa [Char.ofNat_toNat] at hchar

lemma foldCase_eq_iff {c d : Char} (hd : d ∈ hexChars) : foldCase c = d ↔ c.toLower = d := by
  by_cases hcapital : 65 ≤ c.toNat ∧ c.toNat ≤ 90
  · rw [foldCase_capital hcapital]
  · have hlower : c.toLower = c := dif_neg hcapital
    have hpositive : ∀ d ∈ hexChars, d.toNat ≠ 0 := by
      rw [← List.forall_iff_forall_mem]
      decide
    have hcovers : (⟨0x41, 0x5a, 1, 32⟩ : CodeRun).covers c.toNat = false := by
      simp only [CodeRun.covers, Bool.and_eq_false_iff, decide_eq_false_iff_not]
      omega
    have htail : foldCase c = shiftBy caseFoldRuns.tail c := by
      rw [foldCase, shiftBy, shiftBy, caseFoldRuns, List.find?_cons_of_neg (by simp [hcovers]),
        List.tail_cons]
    rw [hlower]
    constructor
    · intro hfold
      by_contra hne
      exact shiftBy_ne (hpositive d hd) (fun run hrun => caseFoldRuns_avoid_hexChars run hrun d hd)
        hne (htail ▸ hfold)
    · rintro rfl
      exact foldCase_of_mem_hexChars hd

lemma agreesFolded_iff {p c : Char} (hp : p.toLower ∈ hexChars) :
    agreesFolded p c = true ↔ c.toLower = p.toLower := by
  rw [agreesFolded, beq_iff_eq, (foldCase_eq_iff hp).mpr rfl, eq_comm, foldCase_eq_iff hp]

lemma agreesFolded_hash {c : Char} (hc : c ≠ '#') : agreesFolded '#' c = false := by
  rw [Bool.eq_false_iff, ne_eq, agreesFolded_iff (by decide)]
  exact fun h => hc ((Palette.toLower_eq_hash_iff c).mp h)

/-- A pattern of hex digits is found at the front of a text when the front is the pattern in some
case. -/
lemma isSome_dropFolded?_iff {pattern text : List Char}
    (hpattern : ∀ p ∈ pattern, p.toLower ∈ hexChars) :
    (dropFolded? pattern text).isSome ↔ ∃ place, place <+: text ∧ SameUpToCase place pattern := by
  induction pattern generalizing text with
  | nil => simp [dropFolded?, SameUpToCase]
  | cons p pattern ih =>
    obtain ⟨hp, hothers⟩ := List.forall_mem_cons.mp hpattern
    cases text with
    | nil => simp [dropFolded?, SameUpToCase]
    | cons c text =>
      have hstep : (dropFolded? (p :: pattern) (c :: text)).isSome ↔
          c.toLower = p.toLower ∧ (dropFolded? pattern text).isSome := by
        rw [dropFolded?, ← agreesFolded_iff hp]
        split <;> simp [*]
      rw [hstep, ih hothers]
      constructor
      · rintro ⟨hc, place, hplace, hsame⟩
        exact ⟨c :: place, (List.prefix_cons_inj c).mpr hplace, congrArg₂ List.cons hc hsame⟩
      · rintro ⟨place, hplace, hsame⟩
        cases place with
        | nil => cases hsame
        | cons d place =>
          obtain ⟨rfl, hrest⟩ := List.cons_prefix_cons.mp hplace
          obtain ⟨hd, hmore⟩ := List.cons.inj hsame
          exact ⟨hd, place, hrest, hmore⟩

end UtilityMarkup.Text
