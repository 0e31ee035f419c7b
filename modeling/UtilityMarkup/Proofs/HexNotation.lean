import Mathlib.Data.List.Basic
import UtilityMarkup.Document.Color
import UtilityMarkup.Token.Palette

/-!
# Hex notation

The hex of a color is a `#` and one pair of lower-case digits for each channel, of which alpha is
left out when it is 1. Such a hex is its own normal form.
-/

namespace UtilityMarkup

namespace Color

def hexDigits : List Char := "0123456789abcdef".toList

lemma mem_hexDigits_of_mem_hexByte {byte : UInt8} {c : Char} (hc : c ∈ hexByte byte) :
    c ∈ hexDigits := by
  have hdigit : ∀ n < 16, Nat.digitChar n ∈ hexDigits := by decide
  have hbyte : byte.toNat < 256 := byte.toNat_lt
  simp only [hexByte, List.mem_cons, List.not_mem_nil, or_false] at hc
  rcases hc with rfl | rfl
  · exact hdigit _ (by omega)
  · exact hdigit _ (by omega)

def baseDigits (color : Color) : List Char :=
  hexByte (channelByte color.red) ++ hexByte (channelByte color.green) ++
    hexByte (channelByte color.blue)

def alphaDigits (color : Color) : List Char :=
  if color.isTranslucent then hexByte (channelByte color.alpha) else []

lemma baseHex_eq (color : Color) : color.baseHex = .ofList ('#' :: color.baseDigits) := rfl

lemma hex_eq (color : Color) :
    color.hex = .ofList ('#' :: (color.baseDigits ++ color.alphaDigits)) := by
  rw [hex, baseHex_eq, alphaDigits]
  split <;> simp [String.ext_iff]

lemma length_digits (color : Color) : (color.baseDigits ++ color.alphaDigits).length =
    if color.alpha != 1 then 8 else 6 := by
  rw [alphaDigits, isTranslucent]
  split <;> rfl

lemma mem_hexDigits_of_mem_baseDigits {color : Color} {c : Char} (hc : c ∈ color.baseDigits) :
    c ∈ hexDigits := by
  rw [baseDigits, List.mem_append, List.mem_append] at hc
  rcases hc with (hred | hgreen) | hblue
  · exact mem_hexDigits_of_mem_hexByte hred
  · exact mem_hexDigits_of_mem_hexByte hgreen
  · exact mem_hexDigits_of_mem_hexByte hblue

lemma mem_hexDigits_of_mem_digits {color : Color} {c : Char}
    (hc : c ∈ color.baseDigits ++ color.alphaDigits) : c ∈ hexDigits := by
  rcases List.mem_append.mp hc with hbase | halpha
  · exact mem_hexDigits_of_mem_baseDigits hbase
  · rw [alphaDigits] at halpha
    split at halpha
    · exact mem_hexDigits_of_mem_hexByte halpha
    · cases halpha

end Color

namespace Palette

/-- Digits in lower case behind one `#` are a normal form. -/
lemma normalChars_hash_cons {digits : List Char} (h : ∀ c ∈ digits, c ∈ Color.hexDigits) :
    normalChars ('#' :: digits) = '#' :: digits := by
  have hdigit : ∀ c ∈ Color.hexDigits,
      c.toLower = c ∧ (c == '#') = false ∧ Text.isBlank c = false := by
    rw [← List.forall_iff_forall_mem]
    decide
  have hlast : ∀ c ∈ ('#' :: digits).getLast?, Text.isBlank c = false := by
    intro c hc
    rcases List.mem_cons.mp (List.mem_of_getLast? hc) with rfl | hmem
    · decide
    · exact (hdigit c (h c hmem)).2.2
  have htrim : Text.trimChars ('#' :: digits) = '#' :: digits :=
    Text.trimChars_eq_self_iff.mpr ⟨by simp; decide, hlast⟩
  have hstrip : digits.dropWhile (· == '#') = digits := by
    refine Text.dropWhile_eq_self_iff.mpr fun c hc => ?_
    exact (hdigit c (h c (List.mem_of_mem_head? hc))).2.1
  have hlower : digits.map Char.toLower = digits := by
    rw [List.map_congr_left (g := id) fun c hc => (hdigit c (h c hc)).1, List.map_id]
  rw [normalChars, htrim, List.dropWhile_cons_of_pos (by rfl), hstrip, hlower]

theorem normalHex_baseHex (color : Color) : normalHex color.baseHex = color.baseHex := by
  rw [normalHex, Color.baseHex_eq, String.toList_ofList,
    normalChars_hash_cons fun _ => Color.mem_hexDigits_of_mem_baseDigits]

end Palette

end UtilityMarkup
