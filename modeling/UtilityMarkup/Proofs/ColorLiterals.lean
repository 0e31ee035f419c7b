import UtilityMarkup.Proofs.ColorPlaces

/-!
# Literals of a color

A literal is a `#` with all the hex digits behind it. A color is replaced at its base digits, and
they may be the front of a longer literal: the alpha byte of `#00000080` stays behind the name that
the drawing gets instead. So a literal that starts with the base digits is replaced as a whole only
when it ends with them.
-/

namespace UtilityMarkup

namespace Markup

open Text

def IsHexDigit (c : Char) : Prop :=
  c.toLower ∈ Color.hexDigits

instance : DecidablePred IsHexDigit := fun c => inferInstanceAs (Decidable (c.toLower ∈ _))

/-- Somewhere in the text `currentColor` goes on with a hex digit. -/
def HasBrokenColor (text : List Char) : Prop :=
  ∃ d, IsHexDigit d ∧ currentColor ++ [d] <:+: text

/-- Somewhere in the text the hex goes on with a further digit, or stands twice without a gap. -/
def HasLongerPlace (hex text : List Char) : Prop :=
  ∃ place next, SameUpToCase place hex ∧ place ++ next <:+: text ∧
    ((∃ d, IsHexDigit d ∧ next = [d]) ∨ SameUpToCase next hex)

lemma ne_hash_of_isHexDigit {c : Char} (h : IsHexDigit c) : c ≠ '#' := by
  rintro rfl
  exact absurd h (by decide)

lemma isHexDigit_of_mem_sameUpToCase {digits more : List Char}
    (hdigits : ∀ d ∈ digits, d ∈ Color.hexDigits) (h : SameUpToCase more digits) :
    ∀ c ∈ more, IsHexDigit c := by
  intro c hc
  have hlower : c.toLower ∈ digits.map Char.toLower :=
    h ▸ List.mem_map_of_mem (f := Char.toLower) hc
  obtain ⟨d, hd, heq⟩ := List.mem_map.mp hlower
  rw [IsHexDigit, ← heq, toLower_of_mem_hexChars (List.mem_cons_of_mem _ (hdigits d hd))]
  exact hdigits d hd

/-! ### Where the name can stand -/

/-- No end of the name is also a beginning of it. -/
lemma not_prefix_currentColor {front back : List Char} (h : front ++ back = currentColor)
    (hfront : front ≠ []) (hback : back ≠ []) : ¬back <+: currentColor := by
  have hends : ∀ k ∈ List.range' 1 11, ¬currentColor.drop k <+: currentColor := by decide
  have hlength := congrArg List.length h
  have hdrop : currentColor.drop front.length = back := by
    rw [← h, List.drop_left]
  have hfrontLength := List.length_pos_iff.mpr hfront
  have hbackLength := List.length_pos_iff.mpr hback
  rw [List.length_append, show currentColor.length = 12 from rfl] at hlength
  rw [← hdrop]
  exact hends _ (by rw [List.mem_range'_1]; omega)

/-- Two occurrences of the name are the same one or lie apart. -/
lemma currentColor_apart {rest middle after : List Char}
    (h : currentColor ++ rest = middle ++ (currentColor ++ after)) :
    middle = [] ∧ rest = after ∨
      ∃ inner, middle = currentColor ++ inner ∧ rest = inner ++ (currentColor ++ after) := by
  rcases List.append_eq_append_iff.mp h with ⟨inner, hmiddle, hrest⟩ | ⟨back, hname, hback⟩
  · exact .inr ⟨inner, hmiddle, hrest⟩
  · by_cases hmiddle : middle = []
    · subst hmiddle
      exact .inl ⟨rfl, List.append_cancel_left h⟩
    · by_cases hempty : back = []
      · subst hempty
        exact .inr ⟨[], by simpa using hname.symm, by simpa using hback.symm⟩
      · have hlength := congrArg List.length hname
        have hprefix : back <+: currentColor :=
          List.prefix_of_prefix_length_le ⟨rest, hback.symm⟩ (List.prefix_append _ after)
            (by rw [List.length_append] at hlength; omega)
        exact absurd hprefix (not_prefix_currentColor hname.symm hmiddle hempty)

namespace Cut

variable {digits : List Char}

/-- Induction on the places: where the text itself has no `currentColor`, each one in the recolored
text has been written for a place. -/
lemma exists_place_of_currentColor {cut : Cut} (hfirst : ¬currentColor <:+: cut.first)
    (hkept : ∀ part ∈ cut.places, ¬currentColor <:+: part.2) {before after : List Char}
    (h : cut.recolored = before ++ (currentColor ++ after)) :
    ∃ earlier place kept later, cut.places = earlier ++ (place, kept) :: later ∧
      after = recolored ⟨kept, later⟩ := by
  obtain ⟨first, places⟩ := cut
  induction places generalizing first before with
  | nil =>
    have hinside : currentColor <:+: first := ⟨before, after, by
      simpa [recolored, written] using h.symm⟩
    exact absurd hinside hfirst
  | cons part places ih =>
    obtain ⟨place, kept⟩ := part
    obtain ⟨hpart, hothers⟩ := List.forall_mem_cons.mp hkept
    rw [recolored, written_cons, ← recolored] at h
    have hhere (hrest : recolored ⟨kept, places⟩ = after) :
        ∃ earlier place' kept' later, (place, kept) :: places =
          earlier ++ (place', kept') :: later ∧ after = recolored ⟨kept', later⟩ :=
      ⟨[], place, kept, places, rfl, hrest.symm⟩
    rcases List.append_eq_append_iff.mp h with ⟨middle, -, hmiddle⟩ | ⟨middle, hinside, hmiddle⟩
    · rcases currentColor_apart hmiddle with ⟨-, hrest⟩ | ⟨inner, -, hrest⟩
      · exact hhere hrest
      · obtain ⟨earlier, place', kept', later, heq, hafter⟩ := ih kept hpart hothers hrest
        exact ⟨(place, kept) :: earlier, place', kept', later, congrArg ((place, kept) :: ·) heq,
          hafter⟩
    · rcases currentColor_apart hmiddle with ⟨-, hrest⟩ | ⟨inner, rfl, -⟩
      · exact hhere hrest.symm
      · exact absurd ⟨before, inner, by rw [hinside, List.append_assoc]⟩ hfirst

lemma whole_append (first : List Char) (earlier later : List (List Char × List Char))
    (place kept : List Char) :
    whole ⟨first, earlier ++ (place, kept) :: later⟩ =
      whole ⟨first, earlier⟩ ++ (place ++ whole ⟨kept, later⟩) := by
  simp [whole, written, List.append_assoc]

/-- A name in the recolored text that goes on with a digit was written for a place that does, or
for one that another place follows. -/
lemma hasLongerPlace_of_hasBrokenColor {cut : Cut} (hcut : cut.IsAt ('#' :: digits))
    (hplain : ¬currentColor <:+: cut.whole) (h : HasBrokenColor cut.recolored) :
    HasLongerPlace ('#' :: digits) cut.whole := by
  obtain ⟨d, hd, before, after, hinside⟩ := h
  have hfirst : cut.first <:+: cut.whole := (List.prefix_append _ _).isInfix
  have hkept : ∀ part ∈ cut.places, part.2 <:+: cut.whole := by
    rintro ⟨place, kept⟩ hpart
    obtain ⟨earlier, later, hplaces⟩ := List.append_of_mem hpart
    obtain ⟨first, places⟩ := cut
    subst hplaces
    exact ⟨whole ⟨first, earlier⟩ ++ place, whole ⟨[], later⟩, by
      simp [whole, written, List.append_assoc]⟩
  have hrecolored : cut.recolored = before ++ (currentColor ++ d :: after) := by
    rw [← hinside]
    simp only [List.append_assoc, List.singleton_append]
  obtain ⟨earlier, place, kept, later, hplaces, hafter⟩ :=
    exists_place_of_currentColor (fun hname => hplain (hname.trans hfirst))
      (fun part hpart hname => hplain (hname.trans (hkept part hpart))) hrecolored
  have hwhole : cut.whole = whole ⟨cut.first, earlier⟩ ++ (place ++ whole ⟨kept, later⟩) := by
    rw [← whole_append, ← hplaces]
  have hplace : SameUpToCase place ('#' :: digits) := hcut.places (place, kept) (by simp [hplaces])
  have hbehind {next rest : List Char} (hnext : whole ⟨kept, later⟩ = next ++ rest) :
      place ++ next <:+: cut.whole := by
    rw [hwhole, hnext]
    exact ⟨whole ⟨cut.first, earlier⟩, rest, by simp only [List.append_assoc]⟩
  cases kept with
  | cons c kept =>
    obtain rfl : d = c := by simpa [recolored, written] using (List.cons.inj hafter).1
    exact ⟨place, [d], hplace, hbehind (by rfl), .inl ⟨d, hd, rfl⟩⟩
  | nil =>
    cases later with
    | nil => simp [recolored, written] at hafter
    | cons part later =>
      obtain ⟨next, kept⟩ := part
      have hnext : SameUpToCase next ('#' :: digits) := hcut.places (next, kept) (by simp [hplaces])
      exact ⟨place, next, hplace, hbehind (written_cons id), .inr hnext⟩

end Cut

/-! ### What becomes of a literal -/

section Literals

variable {digits pattern : List Char} (hdigits : ∀ d ∈ digits, d ∈ Color.hexDigits)

include hdigits

lemma replaceFrom_append_of_head {tail : List Char} (front : List Char)
    (htail : ∀ d ∈ tail.head?, d = '#') :
    replaceFrom ('#' :: digits) 0 (front ++ tail) =
      replaceFrom ('#' :: digits) 0 front ++ replaceFrom ('#' :: digits) 0 tail := by
  obtain ⟨cut, rfl, hcut⟩ := Cut.exists_isAt digits front
  rw [Cut.replaceFrom_whole_append hdigits rfl hcut htail, Cut.replaceFrom_whole hdigits rfl hcut]

lemma replaceFrom_around_place {place : List Char} (hplace : SameUpToCase place ('#' :: digits))
    (before after : List Char) :
    replaceFrom ('#' :: digits) 0 (before ++ (place ++ after)) =
      replaceFrom ('#' :: digits) 0 before ++
        (currentColor ++ replaceFrom ('#' :: digits) 0 after) := by
  have hhead : ∀ d ∈ (place ++ after).head?, d = '#' := by
    obtain ⟨more, rfl, -⟩ := head_of_sameUpToCase hplace
    simp
  rw [replaceFrom_append_of_head hdigits before hhead, replaceFrom_place hdigits rfl hplace]

lemma hasBrokenColor_of_hasLongerPlace {text : List Char}
    (h : HasLongerPlace ('#' :: digits) text) :
    HasBrokenColor (replaceFrom ('#' :: digits) 0 text) := by
  obtain ⟨place, next, hplace, ⟨before, after, rfl⟩, hnext⟩ := h
  have htext : before ++ (place ++ next) ++ after = before ++ (place ++ (next ++ after)) := by
    simp only [List.append_assoc]
  rw [htext, replaceFrom_around_place hdigits hplace]
  rcases hnext with ⟨d, hd, rfl⟩ | hnext
  · refine ⟨d, hd, replaceFrom ('#' :: digits) 0 before, replaceFrom ('#' :: digits) 0 after, ?_⟩
    rw [List.singleton_append, replaceFrom_cons_of_ne (ne_hash_of_isHexDigit hd)]
    simp
  · -- The name starts with a hex digit itself.
    have hname (rest : List Char) : currentColor ++ rest = 'c' :: (currentColor.tail ++ rest) := rfl
    refine ⟨'c', by decide, replaceFrom ('#' :: digits) 0 before,
      currentColor.tail ++ replaceFrom ('#' :: digits) 0 after, ?_⟩
    rw [replaceFrom_place hdigits rfl hnext, hname (replaceFrom ('#' :: digits) 0 after)]
    simp

/-- A literal that starts with the base digits keeps what it has behind them. Any other literal is
kept as it is. -/
lemma replaceFrom_literal (hlength : digits.length = 6) {before run after : List Char}
    (hrun : ∀ d ∈ run, IsHexDigit d) (hafter : ∀ d ∈ after.head?, ¬IsHexDigit d) :
    replaceFrom ('#' :: digits) 0 (before ++ ('#' :: run ++ after)) =
      replaceFrom ('#' :: digits) 0 before ++
        ((if SameUpToCase (run.take 6) digits then currentColor ++ run.drop 6 else '#' :: run) ++
          replaceFrom ('#' :: digits) 0 after) := by
  have hhash (part : List Char) (hpart : ∀ d ∈ part, d ∈ run) : '#' ∉ part :=
    fun hmem => ne_hash_of_isHexDigit (hrun _ (hpart _ hmem)) rfl
  split
  · rename_i hsame
    have hplace : SameUpToCase ('#' :: run.take 6) ('#' :: digits) :=
      congrArg ('#'.toLower :: ·) hsame
    have hsplit : '#' :: run ++ after = '#' :: run.take 6 ++ (run.drop 6 ++ after) := by
      rw [List.cons_append, List.cons_append, ← List.append_assoc, List.take_append_drop]
    rw [hsplit, replaceFrom_around_place hdigits hplace,
      replaceFrom_append (hhash _ fun _ => List.mem_of_mem_drop), List.append_assoc]
  · rename_i hother
    have hnone : ¬(dropFolded? ('#' :: digits) ('#' :: (run ++ after))).isSome = true := by
      rw [isSome_dropFolded?_iff_place hdigits rfl]
      rintro ⟨place, hplace, hsame⟩
      obtain ⟨more, rfl, hmore⟩ := head_of_sameUpToCase hsame
      have hmoreLength : more.length = 6 := by
        rw [← hlength, ← List.length_map (f := Char.toLower), hmore, List.length_map]
      have hfront : more = (run ++ after).take 6 := by
        rw [← hmoreLength]
        exact List.prefix_iff_eq_take.mp ((List.prefix_cons_inj _).mp hplace)
      rw [List.take_append] at hfront
      by_cases hlong : 6 ≤ run.length
      · rw [Nat.sub_eq_zero_of_le hlong, List.take_zero, List.append_nil] at hfront
        exact hother (hfront ▸ hmore)
      · -- The literal ends inside these digits, so what stands behind it would be one of them.
        have hbehind : after ≠ [] := by
          rintro rfl
          have hshort := congrArg List.length hfront
          simp only [List.take_nil, List.append_nil, List.length_take] at hshort
          omega
        obtain ⟨d, rest, rfl⟩ := List.exists_cons_of_ne_nil hbehind
        obtain ⟨missing, hmissing⟩ : ∃ missing, 6 - run.length = missing + 1 :=
          ⟨6 - run.length - 1, by omega⟩
        have hmem : d ∈ more := by
          rw [hfront, hmissing, List.take_succ_cons]
          simp
        exact hafter d rfl (isHexDigit_of_mem_sameUpToCase hdigits hmore d hmem)
    rw [replaceFrom_append_of_head hdigits before (by simp), List.cons_append, replaceFrom,
      if_neg hnone, replaceFrom_append (hhash run fun _ => id), List.cons_append]

end Literals

lemma replaceHex_of_not_mem (color : Color) {text : List Char} (h : '#' ∉ text) :
    replaceHex color.hex.toList text = text := by
  have hkept : replaceFrom ('#' :: color.baseDigits) 0 (text ++ []) =
      text ++ replaceFrom ('#' :: color.baseDigits) 0 [] := replaceFrom_append h []
  rw [replaceHex_hex]
  simpa [replaceFrom] using hkept

lemma useCurrentColor_literal (color : Color) {markup : String} {before run after : List Char}
    (hmarkup : markup.toList = before ++ ('#' :: run ++ after)) (hrun : ∀ d ∈ run, IsHexDigit d)
    (hafter : ∀ d ∈ after.head?, ¬IsHexDigit d) :
    (useCurrentColor markup color.hex).toList =
      replaceHex color.hex.toList before ++
        ((if SameUpToCase (run.take 6) color.baseDigits then currentColor ++ run.drop 6
          else '#' :: run) ++ replaceHex color.hex.toList after) := by
  simp only [useCurrentColor, String.toList_ofList, replaceHex_hex]
  rw [hmarkup]
  exact replaceFrom_literal (fun _ => Color.mem_hexDigits_of_mem_baseDigits) rfl hrun hafter

/-- In a text without the name, replacing a color leaves a name that goes on with a hex digit
exactly when the hex of the color goes on in the text, with a digit or with another place. In every
text, a literal that starts with the base digits of the color is replaced by the name and the rest
of its digits, and any other literal is kept. -/
theorem useCurrentColor_breaks_longer_literals (color : Color) (markup : String) :
    (¬currentColor <:+: markup.toList →
      (HasBrokenColor (useCurrentColor markup color.hex).toList ↔
        HasLongerPlace color.baseHex.toList markup.toList)) ∧
    ∀ before run after, markup.toList = before ++ ('#' :: run ++ after) →
      (∀ d ∈ run, IsHexDigit d) → (∀ d ∈ after.head?, ¬IsHexDigit d) →
      (useCurrentColor markup color.hex).toList =
        replaceHex color.hex.toList before ++
          ((if SameUpToCase (run.take 6) color.baseDigits then currentColor ++ run.drop 6
            else '#' :: run) ++ replaceHex color.hex.toList after) := by
  have hdigits : ∀ d ∈ color.baseDigits, d ∈ Color.hexDigits :=
    fun _ => Color.mem_hexDigits_of_mem_baseDigits
  have hbase : color.baseHex.toList = '#' :: color.baseDigits := by
    rw [Color.baseHex_eq, String.toList_ofList]
  refine ⟨fun hplain => ?_, fun before run after hmarkup hrun hafter =>
    useCurrentColor_literal color hmarkup hrun hafter⟩
  simp only [useCurrentColor, String.toList_ofList, replaceHex_hex, hbase]
  refine ⟨fun hbroken => ?_, hasBrokenColor_of_hasLongerPlace hdigits⟩
  obtain ⟨cut, hwhole, hcut⟩ := Cut.exists_isAt color.baseDigits markup.toList
  rw [← hwhole, Cut.replaceFrom_whole hdigits rfl hcut] at hbroken
  rw [← hwhole] at hplain ⊢
  exact Cut.hasLongerPlace_of_hasBrokenColor hcut hplain hbroken

/-! ### A translucent stroke -/

def translucentInk : Color := ⟨0, 0, 0, 0.5⟩

def strokeDrawing : String := "<svg stroke=\"#00000080\"/>"

lemma hex_translucentInk : translucentInk.hex = "#00000080" := by
  decide +kernel

lemma baseDigits_translucentInk : translucentInk.baseDigits = "000000".toList := by
  decide +kernel

lemma currentColor_not_infix_strokeDrawing : ¬currentColor <:+: strokeDrawing.toList := by
  decide +kernel

def strokeBefore : List Char := "<svg stroke=\"".toList

def strokeAfter : List Char := "\"/>".toList

lemma toList_strokeDrawing :
    strokeDrawing.toList = strokeBefore ++ ('#' :: "00000080".toList ++ strokeAfter) := by
  decide +kernel

lemma isHexDigit_of_mem_strokeDrawing : ∀ d ∈ "00000080".toList, IsHexDigit d := by
  rw [← List.forall_iff_forall_mem]
  decide

lemma not_isHexDigit_of_mem_strokeAfter : ∀ d ∈ strokeAfter.head?, ¬IsHexDigit d := by
  intro d hd
  obtain rfl : '"' = d := by simpa [strokeAfter] using hd
  decide

lemma useCurrentColor_strokeDrawing :
    replaceHex translucentInk.hex.toList strokeBefore ++
      ((if SameUpToCase ("00000080".toList.take 6) translucentInk.baseDigits then
          currentColor ++ "00000080".toList.drop 6
        else '#' :: "00000080".toList) ++ replaceHex translucentInk.hex.toList strokeAfter) =
      strokeBefore ++ (currentColor ++ ['8', '0'] ++ strokeAfter) := by
  have hbefore : '#' ∉ strokeBefore := by decide
  have hafter : '#' ∉ strokeAfter := by decide
  rw [replaceHex_of_not_mem translucentInk hbefore, replaceHex_of_not_mem translucentInk hafter,
    baseDigits_translucentInk, if_pos (by decide)]
  rfl

theorem useCurrentColor_breaks_longer_literals_stroke :
    (¬currentColor <:+: strokeDrawing.toList ∧
      HasLongerPlace translucentInk.baseHex.toList strokeDrawing.toList ∧
      HasBrokenColor (useCurrentColor strokeDrawing translucentInk.hex).toList) ∧
    (useCurrentColor strokeDrawing translucentInk.hex).toList =
      strokeBefore ++ (currentColor ++ ['8', '0'] ++ strokeAfter) := by
  obtain ⟨hbroken, hliteral⟩ :=
    useCurrentColor_breaks_longer_literals translucentInk strokeDrawing
  have hplain := currentColor_not_infix_strokeDrawing
  have hlonger : HasLongerPlace translucentInk.baseHex.toList strokeDrawing.toList := by
    rw [Color.baseHex_eq, String.toList_ofList, baseDigits_translucentInk]
    exact ⟨"#000000".toList, ['8'], by decide, by decide +kernel, .inl ⟨'8', by decide, rfl⟩⟩
  refine ⟨⟨hplain, hlonger, (hbroken hplain).mpr hlonger⟩, ?_⟩
  exact (hliteral _ _ _ toList_strokeDrawing isHexDigit_of_mem_strokeDrawing
    not_isHexDigit_of_mem_strokeAfter).trans useCurrentColor_strokeDrawing

/-- The literal of a translucent color is neither kept nor replaced as a whole. -/
theorem strokeDrawing_keeps_alpha_digits :
    translucentInk.hex = "#00000080" ∧ ¬currentColor <:+: strokeDrawing.toList ∧
    useCurrentColor strokeDrawing translucentInk.hex = "<svg stroke=\"currentColor80\"/>" ∧
    HasBrokenColor (useCurrentColor strokeDrawing translucentInk.hex).toList ∧
    useCurrentColor strokeDrawing translucentInk.hex ≠ strokeDrawing ∧
    useCurrentColor strokeDrawing translucentInk.hex ≠ "<svg stroke=\"currentColor\"/>" := by
  have hresult : useCurrentColor strokeDrawing translucentInk.hex =
      "<svg stroke=\"currentColor80\"/>" := by
    rw [← String.toList_inj, useCurrentColor_literal translucentInk toList_strokeDrawing
      isHexDigit_of_mem_strokeDrawing not_isHexDigit_of_mem_strokeAfter,
      useCurrentColor_strokeDrawing]
    decide +kernel
  rw [hresult]
  exact ⟨hex_translucentInk, currentColor_not_infix_strokeDrawing, rfl,
    ⟨'8', by decide, by decide +kernel⟩, by decide, by decide⟩

end Markup

end UtilityMarkup
