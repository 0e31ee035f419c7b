import UtilityMarkup.Markup.Drawing
import UtilityMarkup.Proofs.HexCase

/-!
# Recoloring

A drawing is recolored where the `#` and the digits of a color stand in it, in any case. Characters
that agree with none of these are kept, and so are names without a `#`.
-/

namespace UtilityMarkup

namespace Markup

/-! ### The pattern of a color -/

lemma takeBytes?_append {front : List Char} (h : ∀ c ∈ front, c.utf8Size = 1) (rest : List Char) :
    takeBytes? front.length (front ++ rest) = some front := by
  induction front with
  | nil => cases rest <;> rfl
  | cons c front ih =>
    obtain ⟨hc, hfront⟩ := List.forall_mem_cons.mp h
    rw [List.length_cons, List.cons_append, takeBytes?, if_pos (by omega), hc, Nat.add_sub_cancel,
      ih hfront, Option.map_some]

theorem withoutAlpha_hex (color : Color) :
    withoutAlpha color.hex.toList = '#' :: color.baseDigits := by
  have hfront : ∀ c ∈ '#' :: color.baseDigits, c.utf8Size = 1 := by
    intro c hc
    have hchar := Text.mem_hexChars (fun _ => Color.mem_hexDigits_of_mem_baseDigits) c hc
    exact Text.utf8Size_of_toLower_mem ((Text.toLower_of_mem_hexChars hchar).symm ▸ hchar)
  have htake : takeBytes? 7 ('#' :: color.baseDigits ++ color.alphaDigits) = _ :=
    takeBytes?_append hfront color.alphaDigits
  rw [withoutAlpha, Color.hex_eq, String.toList_ofList, ← List.cons_append, htake, Option.getD_some]

lemma replaceHex_hex (color : Color) (markup : List Char) :
    replaceHex color.hex.toList markup = replaceFrom ('#' :: color.baseDigits) 0 markup := by
  rw [replaceHex, withoutAlpha_hex]

/-! ### Text that is kept -/

section Kept

variable {digits : List Char}

lemma replaceFrom_cons_of_ne {c : Char} (hc : c ≠ '#') (rest : List Char) :
    replaceFrom ('#' :: digits) 0 (c :: rest) = c :: replaceFrom ('#' :: digits) 0 rest := by
  rw [replaceFrom, Text.dropFolded?, if_neg (by simp [Text.agreesFolded_hash hc])]

lemma replaceFrom_append {front : List Char} (h : '#' ∉ front) (rest : List Char) :
    replaceFrom ('#' :: digits) 0 (front ++ rest) =
      front ++ replaceFrom ('#' :: digits) 0 rest := by
  induction front with
  | nil => rfl
  | cons c front ih =>
    obtain ⟨hc, hfront⟩ := not_or.mp (List.mem_cons.not.mp h)
    rw [List.cons_append, replaceFrom_cons_of_ne (Ne.symm hc), ih hfront, List.cons_append]

lemma head?_replaceFrom {text : List Char} (h : text.head? ≠ some '#') :
    (replaceFrom ('#' :: digits) 0 text).head? = text.head? := by
  cases text with
  | nil => rfl
  | cons c rest =>
    have hc : c ≠ '#' := by simpa using h
    rw [replaceFrom_cons_of_ne hc]
    rfl

end Kept

end Markup

end UtilityMarkup
