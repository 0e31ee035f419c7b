import Mathlib.Data.List.TakeWhile
import UtilityMarkup.Number.Literal
import UtilityMarkup.Proofs.HexNotation
import UtilityMarkup.Text.LowerCase
import UtilityMarkup.Utility.Classes

/-!
# Words

An unbroken text has no blanks, and is a single word when it is not empty. Numbers and colors are
written without blanks, and lower case brings none into a text.
-/

namespace UtilityMarkup

namespace Text

def blankCodes : List Nat :=
  [0x9, 0xa, 0xb, 0xc, 0xd, 0x20, 0x85, 0xa0, 0x1680, 0x2000, 0x2001, 0x2002, 0x2003, 0x2004, 0x2005,
    0x2006, 0x2007, 0x2008, 0x2009, 0x200a, 0x2028, 0x2029, 0x202f, 0x205f, 0x3000]

lemma toNat_mem_blankCodes {c : Char} (h : isBlank c = true) : c.toNat ∈ blankCodes := by
  simp only [isBlank, Bool.or_eq_true, Bool.and_eq_true, decide_eq_true_eq, beq_iff_eq] at h
  simp only [blankCodes, List.mem_cons, List.not_mem_nil, or_false]
  omega

/-! ### Texts without blanks -/

def Unbroken (text : String) : Prop :=
  ∀ c ∈ text.toList, isBlank c = false

instance : DecidablePred Unbroken := fun text =>
  decidable_of_iff (text.toList.all fun c => !isBlank c) (by simp [Unbroken])

lemma unbroken_ofList_iff {chars : List Char} :
    Unbroken (.ofList chars) ↔ ∀ c ∈ chars, isBlank c = false := by
  rw [Unbroken, String.toList_ofList]

lemma unbroken_append_iff {text more : String} :
    Unbroken (text ++ more) ↔ Unbroken text ∧ Unbroken more := by
  rw [Unbroken, String.toList_append, List.forall_mem_append]
  rfl

lemma Unbroken.append {text more : String} (htext : Unbroken text) (hmore : Unbroken more) :
    Unbroken (text ++ more) :=
  unbroken_append_iff.mpr ⟨htext, hmore⟩

lemma unbroken_withoutBlanks (text : String) : Unbroken (withoutBlanks text) := by
  rw [withoutBlanks, unbroken_ofList_iff]
  intro c hc
  simpa using (List.mem_filter.mp hc).2

/-! ### Words of a text -/

structure IsWord (text : String) : Prop where
  ne_empty : text ≠ ""
  unbroken : Unbroken text

lemma IsWord.trim_eq {text : String} (h : IsWord text) : trim text = text :=
  trim_eq_self_iff.mpr ⟨fun c hc => h.unbroken c (List.mem_of_head? hc),
    fun c hc => h.unbroken c (List.mem_of_getLast? hc)⟩

/-- A text without the blanks at its end. -/
def trimEnd (text : String) : String :=
  .ofList (dropTrailing text.toList)

lemma dropTrailing_append {front : List Char} (hfront : ∀ c ∈ front, isBlank c = false)
    (rest : List Char) : dropTrailing (front ++ rest) = front ++ dropTrailing rest := by
  have hkept : front.reverse.dropWhile isBlank = front.reverse :=
    dropWhile_eq_self_iff.mpr fun c hc => hfront c (List.mem_reverse.mp (List.mem_of_head? hc))
  rw [dropTrailing, List.reverse_append, List.dropWhile_append, hkept]
  split
  · rename_i hblank
    have hnone : dropTrailing rest = [] := by
      rw [dropTrailing, List.isEmpty_iff.mp hblank, List.reverse_nil]
    rw [hnone, List.reverse_reverse, List.append_nil]
  · rw [List.reverse_append, List.reverse_reverse, dropTrailing]

/-- Trimming takes nothing from a word at the front of a text. -/
lemma trim_append {front : String} (h : IsWord front) (rest : String) :
    trim (front ++ rest) = front ++ trimEnd rest := by
  have hne : front.toList ≠ [] := fun hempty => h.ne_empty (String.toList_eq_nil_iff.mp hempty)
  have hhead : ∀ c ∈ (front.toList ++ rest.toList).head?, isBlank c = false := by
    intro c hc
    rw [List.head?_append_of_ne_nil _ hne] at hc
    exact h.unbroken c (List.mem_of_head? hc)
  rw [trim, trimEnd, trimChars, String.toList_append, dropWhile_eq_self_iff.mpr hhead,
    dropTrailing_append h.unbroken, String.ofList_append, String.ofList_toList]

lemma trim_append_ne_empty {front : String} (h : IsWord front) (rest : String) :
    trim (front ++ rest) ≠ "" := by
  rw [trim_append h]
  exact fun hempty => h.ne_empty (String.append_eq_empty_iff.mp hempty).1

lemma mem_dropWhile_isBlank {c : Char} (hc : isBlank c = false) {chars : List Char}
    (h : c ∈ chars) : c ∈ chars.dropWhile isBlank := by
  rw [← List.takeWhile_append_dropWhile (p := isBlank) (l := chars), List.mem_append] at h
  refine h.resolve_left fun hblank => ?_
  rw [List.mem_takeWhile_imp hblank] at hc
  cases hc

/-- Trimming takes nothing but blanks away. -/
lemma mem_trim {c : Char} (hc : isBlank c = false) {text : String} (h : c ∈ text.toList) :
    c ∈ (trim text).toList := by
  rw [trim, String.toList_ofList, trimChars, dropTrailing, List.mem_reverse]
  exact mem_dropWhile_isBlank hc (List.mem_reverse.mpr (mem_dropWhile_isBlank hc h))

lemma stretches_of_unbroken {chars : List Char} (h : ∀ c ∈ chars, isBlank c = false) :
    stretches chars = [chars] := by
  induction chars with
  | nil => rfl
  | cons c rest ih =>
    have hc : isBlank c = false := h c (by simp)
    rw [stretches, if_neg (by simp [hc]), ih fun c' hc' => h c' (List.mem_cons_of_mem _ hc')]

lemma IsWord.words_eq {text : String} (h : IsWord text) : words text = [text] := by
  have hne : text.toList ≠ [] := fun hempty => h.ne_empty (String.toList_eq_nil_iff.mp hempty)
  rw [words, stretches_of_unbroken h.unbroken, List.filter_cons_of_pos (by simpa using hne),
    List.filter_nil, List.map_singleton, String.ofList_toList]

lemma stretches_ne_nil (chars : List Char) : stretches chars ≠ [] := by
  cases chars with
  | nil => simp [stretches]
  | cons c rest =>
    rw [stretches]
    split
    · exact List.cons_ne_nil _ _
    · split <;> exact List.cons_ne_nil _ _

lemma stretches_append_cons {c : Char} (hc : isBlank c = true) (front rest : List Char) :
    stretches (front ++ c :: rest) = stretches front ++ stretches rest := by
  induction front with
  | nil => simp [stretches, hc]
  | cons d front ih =>
    rw [List.cons_append, stretches, stretches, ih]
    split
    · rw [List.cons_append]
    · cases hfront : stretches front with
      | nil => exact absurd hfront (stretches_ne_nil front)
      | cons stretch others => rfl

/-- The words of texts that are joined by blanks are those of the texts. -/
lemma words_intercalate (texts : List String) :
    words (" ".intercalate texts) = texts.flatMap words := by
  induction texts with
  | nil => rfl
  | cons text texts ih =>
    cases texts with
    | nil => simp
    | cons next texts =>
      have hwords (rest : String) : words (text ++ " " ++ rest) = words text ++ words rest := by
        have hchars : (text ++ " " ++ rest).toList = text.toList ++ ' ' :: rest.toList := by simp
        rw [words, hchars, stretches_append_cons (by decide), List.filter_append, List.map_append]
        rfl
      rw [String.intercalate_cons_cons, hwords, ih, ← List.flatMap_cons]

/-! ### Lower case -/

lemma toNat_ofNat (n : Nat) : (Char.ofNat n).toNat = n ∨ (Char.ofNat n).toNat = 0 := by
  by_cases h : n.isValidChar
  · left; rw [Char.ofNat, dif_pos h]; rfl
  · right; rw [Char.ofNat, dif_neg h]; rfl

/-- A table leads to a character that none of its runs reaches only from that character itself. -/
lemma shiftBy_ne {runs : List CodeRun} {c d : Char} (hd : d.toNat ≠ 0)
    (havoid : ∀ run ∈ runs,
      ¬((run.first : Int) + run.shift ≤ d.toNat ∧ d.toNat ≤ (run.last : Int) + run.shift))
    (hc : c ≠ d) : shiftBy runs c ≠ d := by
  rw [shiftBy]
  split
  · rename_i run hrun
    intro hshift
    have hcovers : run.covers c.toNat = true := by simpa using List.find?_some hrun
    have hreach := havoid run (List.mem_of_find?_eq_some hrun)
    have hcode := congrArg Char.toNat hshift
    simp only [CodeRun.covers, Bool.and_eq_true, decide_eq_true_eq] at hcovers
    rcases toNat_ofNat (↑c.toNat + run.shift).toNat with h | h <;> omega
  · exact hc

/-- No run of the table leads to a blank. -/
lemma lowerCaseRuns_avoid_blanks : ∀ run ∈ lowerCaseRuns, ∀ code ∈ blankCodes,
    ¬((run.first : Int) + run.shift ≤ code ∧ code ≤ (run.last : Int) + run.shift) := by
  decide +kernel

lemma isBlank_shiftBy_lowerCaseRuns {c : Char} (hc : isBlank c = false) :
    isBlank (shiftBy lowerCaseRuns c) = false := by
  by_contra hblank
  have hmem := toNat_mem_blankCodes (by simpa using hblank)
  have hpositive : ∀ code ∈ blankCodes, 0 < code := by decide
  have hchanged : c ≠ shiftBy lowerCaseRuns c := by
    intro hsame
    rw [← hsame] at hblank
    exact hblank hc
  exact shiftBy_ne (hpositive _ hmem).ne'
    (fun run hrun => lowerCaseRuns_avoid_blanks run hrun _ hmem) hchanged rfl

lemma isBlank_lowerChar {c : Char} (hc : isBlank c = false) :
    ∀ lowered ∈ lowerChar c, isBlank lowered = false := by
  rw [lowerChar]
  split
  · simp [isBlank]
  · simpa using isBlank_shiftBy_lowerCaseRuns hc

lemma isBlank_lowerFrom (before : List Char) {text : List Char}
    (htext : ∀ c ∈ text, isBlank c = false) :
    ∀ c ∈ lowerFrom before text, isBlank c = false := by
  induction text generalizing before with
  | nil => simp [lowerFrom]
  | cons c after ih =>
    have hhead : ∀ lowered ∈ (if c == 'Σ' then [if endsWord before after then 'ς' else 'σ']
        else lowerChar c), isBlank lowered = false := by
      split
      · split <;> simp [isBlank]
      · exact isBlank_lowerChar (htext c (by simp))
    rw [lowerFrom, List.forall_mem_append]
    exact ⟨hhead, ih (c :: before) fun c' hc' => htext c' (List.mem_cons_of_mem _ hc')⟩

lemma unbroken_lowerCase {text : String} (htext : Unbroken text) : Unbroken (lowerCase text) := by
  rw [lowerCase, unbroken_ofList_iff]
  exact isBlank_lowerFrom [] htext

end Text

lemma Classes.entries_ofList_of_trim_ne_empty {texts : List String}
    (h : ∀ text ∈ texts, Text.trim text ≠ "") : (ofList texts).entries = texts.map Text.trim := by
  rw [entries_ofList, List.filter_eq_self, List.forall_mem_map]
  exact fun text htext => by simpa using h text htext

lemma Classes.mem_entries_ofList_of_isWord {texts : List String} {text : String}
    (h : Text.IsWord text) (hmem : text ∈ texts) : text ∈ (ofList texts).entries :=
  mem_entries_ofList_iff.mpr ⟨⟨text, hmem, h.trim_eq⟩, h.ne_empty⟩

lemma Classes.entries_ofList_of_isWord {texts : List String}
    (h : ∀ text ∈ texts, Text.IsWord text) : (ofList texts).entries = texts := by
  have htrim : texts.map Text.trim = texts.map id :=
    List.map_congr_left fun text htext => (h text htext).trim_eq
  rw [entries_ofList, htrim, List.map_id, List.filter_eq_self]
  intro text htext
  simpa using (h text htext).ne_empty

lemma Classes.words_text (classes : Classes) :
    Text.words classes.text = classes.entries.flatMap Text.words :=
  Text.words_intercalate classes.entries

lemma Classes.mem_words_text {classes : Classes} {word : String} (hword : Text.IsWord word)
    (h : word ∈ classes.entries) : word ∈ Text.words classes.text := by
  rw [words_text, List.mem_flatMap]
  exact ⟨word, h, by rw [hword.words_eq]; exact List.mem_singleton_self word⟩

/-! ### Numbers -/

namespace Number

open Text

lemma isBlank_of_mem_toDigits {n : Nat} {c : Char} (hc : c ∈ Nat.toDigits 10 n) :
    isBlank c = false := by
  have hdigit := Nat.isDigit_of_mem_toDigits (by decide) (by decide) hc
  obtain ⟨hlow, hhigh⟩ : 48 ≤ c.toNat ∧ c.toNat ≤ 57 := by
    simpa [Char.isDigit, UInt32.le_iff_toNat_le] using hdigit
  by_contra hblank
  have hcode := toNat_mem_blankCodes (by simpa using hblank)
  simp only [blankCodes, List.mem_cons, List.not_mem_nil, or_false] at hcode
  omega

lemma unbroken_toString (n : Nat) : Unbroken (toString n) := by
  rw [Unbroken, Nat.toString_eq_repr, Nat.toList_repr]
  exact fun _ => isBlank_of_mem_toDigits

lemma unbroken_decimalText (d : Decimal) : Unbroken d.text := by
  have hdigits (n : Nat) : ∀ c ∈ digits n, isBlank c = false := fun _ => isBlank_of_mem_toDigits
  unfold Decimal.text
  split
  · exact unbroken_ofList_iff.mpr (hdigits _)
  · dsimp only
    rw [unbroken_ofList_iff, List.append_assoc, List.forall_mem_append, List.cons_append,
      List.forall_mem_cons, List.forall_mem_append]
    refine ⟨hdigits _, by decide, fun c hc => ?_, hdigits _⟩
    rw [List.eq_of_mem_replicate hc]
    decide

lemma unbroken_signText (negative : Bool) : Unbroken (signText negative) := by
  cases negative <;> decide

lemma unbroken_literal (x : Float) : Unbroken (literal x) := by
  unfold literal text
  split
  · decide
  · split
    · decide
    · exact (unbroken_signText _).append (by decide)
    · exact (unbroken_signText _).append (by decide)
    · exact (unbroken_signText _).append (unbroken_decimalText _)

end Number

/-! ### Colors -/

lemma Color.unbroken_hex (color : Color) : Text.Unbroken color.hex := by
  have hdigit : ∀ c ∈ hexDigits, Text.isBlank c = false := by
    -- There are finitely many characters, so deciding this as it stands could try all of them.
    rw [← List.forall_iff_forall_mem]
    decide
  rw [hex_eq, Text.unbroken_ofList_iff, List.forall_mem_cons]
  exact ⟨by decide, fun c hc => hdigit c (mem_hexDigits_of_mem_digits hc)⟩

end UtilityMarkup
