import UtilityMarkup.Proofs.Recoloring

/-!
# Places of a color

The places where the hex of a color stands in a text, in any case, cut the text in one way only: a
`#` starts each of them and none goes on inside. Recoloring writes `currentColor` for the places and
keeps what is between them, however the hex is spelled.
-/

namespace UtilityMarkup

namespace Markup

open Text

/-! ### Cuts -/

/-- A text in pieces: what stands in front of the first place, then each place with what follows it
up to the next one. -/
structure Cut where
  first : List Char
  places : List (List Char × List Char)

namespace Cut

/-- The text with these writings of its places. -/
def written (cut : Cut) (write : List Char → List Char) : List Char :=
  cut.first ++ cut.places.flatMap fun (place, kept) => write place ++ kept

def whole (cut : Cut) : List Char :=
  cut.written id

def recolored (cut : Cut) : List Char :=
  cut.written fun _ => currentColor

/-- The places are those of the hex, and no piece between them has another. -/
structure IsAt (hex : List Char) (cut : Cut) : Prop where
  first : ∀ place, place <:+: cut.first → ¬SameUpToCase place hex
  places : ∀ part ∈ cut.places, SameUpToCase part.1 hex
  kept : ∀ part ∈ cut.places, ∀ place, place <:+: part.2 → ¬SameUpToCase place hex

variable {hex first place kept : List Char} {places : List (List Char × List Char)}

lemma written_cons (write : List Char → List Char) :
    written ⟨first, (place, kept) :: places⟩ write =
      first ++ (write place ++ written ⟨kept, places⟩ write) := by
  simp only [written, List.flatMap_cons, List.append_assoc]

lemma isAt_nil_iff : IsAt hex ⟨first, []⟩ ↔
    ∀ place, place <:+: first → ¬SameUpToCase place hex :=
  ⟨fun h => h.first, fun h => ⟨h, by simp, by simp⟩⟩

lemma isAt_cons_iff : IsAt hex ⟨first, (place, kept) :: places⟩ ↔
    (∀ place, place <:+: first → ¬SameUpToCase place hex) ∧ SameUpToCase place hex ∧
      IsAt hex ⟨kept, places⟩ := by
  constructor
  · rintro ⟨hfirst, hplaces, hkept⟩
    obtain ⟨hplace, hplaces⟩ := List.forall_mem_cons.mp hplaces
    obtain ⟨hnext, hkept⟩ := List.forall_mem_cons.mp hkept
    exact ⟨hfirst, hplace, hnext, hplaces, hkept⟩
  · rintro ⟨hfirst, hplace, hnext, hplaces, hkept⟩
    exact ⟨hfirst, List.forall_mem_cons.mpr ⟨hplace, hplaces⟩,
      List.forall_mem_cons.mpr ⟨hnext, hkept⟩⟩

end Cut

/-! ### Recoloring a cut text -/

section Places

variable {digits : List Char}

lemma head_of_sameUpToCase {place : List Char} (h : SameUpToCase place ('#' :: digits)) :
    ∃ more, place = '#' :: more ∧ SameUpToCase more digits := by
  cases place with
  | nil => cases h
  | cons c more =>
    obtain ⟨hc, hmore⟩ := List.cons.inj h
    exact ⟨more, by rw [(Palette.toLower_eq_hash_iff c).mp hc], hmore⟩

lemma hash_not_mem_of_sameUpToCase (hdigits : ∀ d ∈ digits, d ∈ Color.hexDigits)
    {more : List Char} (h : SameUpToCase more digits) : '#' ∉ more := by
  intro hmem
  have hlower : '#' ∈ digits.map Char.toLower := h ▸ List.mem_map_of_mem (f := Char.toLower) hmem
  obtain ⟨d, hd, hhash⟩ := List.mem_map.mp hlower
  rw [(Palette.toLower_eq_hash_iff d).mp hhash] at hd
  exact absurd (hdigits _ hd) (by decide)

/-- A place of a hex cannot start in a piece without places and go on behind it, where the next `#`
is. -/
lemma not_place_of_kept (hdigits : ∀ d ∈ digits, d ∈ Color.hexDigits) {c : Char}
    {kept tail place : List Char}
    (hkept : ∀ place, place <:+: c :: kept → ¬SameUpToCase place ('#' :: digits))
    (htail : ∀ d ∈ tail.head?, d = '#') (hplace : place <+: c :: kept ++ tail) :
    ¬SameUpToCase place ('#' :: digits) := by
  intro hsame
  by_cases hlength : place.length ≤ (c :: kept).length
  · have hinside : place <+: c :: kept :=
      List.prefix_of_prefix_length_le hplace (List.prefix_append _ _) hlength
    exact hkept place hinside.isInfix hsame
  · obtain ⟨beyond, rfl⟩ : c :: kept <+: place :=
      List.prefix_of_prefix_length_le (List.prefix_append _ _) hplace (by omega)
    have hbeyond : beyond <+: tail := (List.prefix_append_right_inj _).mp hplace
    obtain ⟨d, beyond, rfl⟩ := List.exists_cons_of_ne_nil (l := beyond) (by rintro rfl; simp at hlength)
    obtain ⟨others, rfl⟩ := hbeyond
    obtain ⟨more, heq, hmore⟩ := head_of_sameUpToCase hsame
    obtain ⟨-, rfl⟩ := List.cons.inj heq
    refine hash_not_mem_of_sameUpToCase hdigits hmore ?_
    rw [← htail d rfl]
    simp

lemma replaceFrom_length_append (pattern skipped rest : List Char) :
    replaceFrom pattern skipped.length (skipped ++ rest) = replaceFrom pattern 0 rest := by
  induction skipped with
  | nil => rfl
  | cons c skipped ih => exact ih

section Replaced

variable {pattern : List Char} (hdigits : ∀ d ∈ digits, d ∈ Color.hexDigits)
  (hpattern : SameUpToCase pattern ('#' :: digits))

include hdigits hpattern

lemma isSome_dropFolded?_iff_place {text : List Char} : (dropFolded? pattern text).isSome ↔
    ∃ place, place <+: text ∧ SameUpToCase place ('#' :: digits) := by
  rw [isSome_dropFolded?_iff (toLower_mem_hexChars (mem_hexChars hdigits) hpattern)]
  simp only [SameUpToCase, show pattern.map Char.toLower = _ from hpattern]

lemma replaceFrom_place {place : List Char} (hplace : SameUpToCase place ('#' :: digits))
    (rest : List Char) :
    replaceFrom pattern 0 (place ++ rest) = currentColor ++ replaceFrom pattern 0 rest := by
  obtain ⟨more, rfl, -⟩ := head_of_sameUpToCase hplace
  have hfound : (dropFolded? pattern ('#' :: (more ++ rest))).isSome :=
    (isSome_dropFolded?_iff_place hdigits hpattern).mpr
      ⟨'#' :: more, List.prefix_append _ _, hplace⟩
  have hlength : pattern.length - 1 = more.length := by
    have hsame := congrArg List.length (hplace.trans hpattern.symm)
    simp only [List.length_map, List.length_cons] at hsame
    omega
  rw [List.cons_append, replaceFrom, if_pos hfound, hlength, replaceFrom_length_append]

/-- Induction on the piece: at none of its characters does a place start. -/
lemma replaceFrom_kept {kept tail : List Char}
    (hkept : ∀ place, place <:+: kept → ¬SameUpToCase place ('#' :: digits))
    (htail : ∀ d ∈ tail.head?, d = '#') :
    replaceFrom pattern 0 (kept ++ tail) = kept ++ replaceFrom pattern 0 tail := by
  induction kept with
  | nil => rfl
  | cons c kept ih =>
    have hnone : ¬(dropFolded? pattern (c :: (kept ++ tail))).isSome = true := by
      rw [isSome_dropFolded?_iff_place hdigits hpattern]
      rintro ⟨place, hplace, hsame⟩
      exact not_place_of_kept hdigits hkept htail hplace hsame
    rw [List.cons_append, replaceFrom, if_neg hnone,
      ih fun place hplace => hkept place (hplace.trans (List.suffix_cons c kept).isInfix),
      List.cons_append]

end Replaced

end Places

namespace Cut

variable {digits pattern : List Char}

/-- What follows a piece of a cut starts with the next place. -/
lemma head_of_isAt {first : List Char} {places : List (List Char × List Char)}
    (h : IsAt ('#' :: digits) ⟨first, places⟩) :
    ∀ d ∈ (places.flatMap fun (place, kept) => place ++ kept).head?, d = '#' := by
  cases places with
  | nil => simp
  | cons part places =>
    obtain ⟨more, hplace, -⟩ := head_of_sameUpToCase (h.places part (by simp))
    simp [hplace]

/-- Induction on the places: each of them is replaced, and what is between them is kept. -/
theorem replaceFrom_whole_append (hdigits : ∀ d ∈ digits, d ∈ Color.hexDigits)
    (hpattern : SameUpToCase pattern ('#' :: digits)) {cut : Cut}
    (h : cut.IsAt ('#' :: digits)) {tail : List Char} (htail : ∀ d ∈ tail.head?, d = '#') :
    replaceFrom pattern 0 (cut.whole ++ tail) = cut.recolored ++ replaceFrom pattern 0 tail := by
  obtain ⟨first, places⟩ := cut
  induction places generalizing first with
  | nil =>
    have hkept := replaceFrom_kept hdigits hpattern h.first htail
    simpa [whole, recolored, written] using hkept
  | cons part places ih =>
    obtain ⟨place, kept⟩ := part
    obtain ⟨hfirst, hplace, hrest⟩ := isAt_cons_iff.mp h
    have hnext : ∀ d ∈ (place ++ (whole ⟨kept, places⟩ ++ tail)).head?, d = '#' := by
      obtain ⟨more, rfl, -⟩ := head_of_sameUpToCase hplace
      simp
    rw [whole, recolored, written_cons, written_cons, id, ← whole, ← recolored, List.append_assoc,
      List.append_assoc, replaceFrom_kept hdigits hpattern hfirst hnext,
      replaceFrom_place hdigits hpattern hplace, ih kept hrest, List.append_assoc,
      List.append_assoc]

theorem replaceFrom_whole (hdigits : ∀ d ∈ digits, d ∈ Color.hexDigits)
    (hpattern : SameUpToCase pattern ('#' :: digits)) {cut : Cut}
    (h : cut.IsAt ('#' :: digits)) : replaceFrom pattern 0 cut.whole = cut.recolored := by
  have hend : ∀ d ∈ ([] : List Char).head?, d = '#' := by simp
  simpa [replaceFrom] using replaceFrom_whole_append hdigits hpattern h hend

/-! ### One cut for each text -/

theorem exists_isAt (digits text : List Char) :
    ∃ cut : Cut, cut.whole = text ∧ cut.IsAt ('#' :: digits) := by
  induction hlength : text.length using Nat.strong_induction_on generalizing text with
  | _ length ih =>
    by_cases hplace : ∃ place, place <+: text ∧ SameUpToCase place ('#' :: digits)
    · obtain ⟨place, ⟨rest, rfl⟩, hsame⟩ := hplace
      obtain ⟨more, rfl, -⟩ := head_of_sameUpToCase hsame
      obtain ⟨⟨kept, places⟩, hwhole, hcut⟩ := ih rest.length (by simp at hlength; omega) rest rfl
      refine ⟨⟨[], ('#' :: more, kept) :: places⟩, ?_, isAt_cons_iff.mpr ⟨?_, hsame, hcut⟩⟩
      · rw [whole, written_cons, id, ← whole, hwhole, List.nil_append]
      · rintro place hplace hempty
        obtain rfl := List.infix_nil.mp hplace
        cases hempty
    · cases text with
      | nil =>
        refine ⟨⟨[], []⟩, rfl, isAt_nil_iff.mpr fun place hinside hsame => ?_⟩
        exact hplace ⟨place, (List.infix_nil.mp hinside) ▸ List.nil_prefix, hsame⟩
      | cons c rest =>
        obtain ⟨⟨kept, places⟩, hwhole, hcut⟩ := ih rest.length (by simp at hlength; omega) rest rfl
        have htext : c :: kept <+: c :: rest := by
          rw [← hwhole]
          exact (List.prefix_cons_inj c).mpr (List.prefix_append _ _)
        refine ⟨⟨c :: kept, places⟩, ?_, ?_, hcut.places, hcut.kept⟩
        · rw [← hwhole]
          rfl
        · intro place hinside hsame
          rcases List.infix_cons_iff.mp hinside with hfront | hlater
          · exact hplace ⟨place, hfront.trans htext, hsame⟩
          · exact hcut.first place hlater hsame

/-- A cut with a longer first piece would have a place of the other cut inside it. -/
lemma eq_nil_of_longer {first mid : List Char} {places others : List (List Char × List Char)}
    (hdigits : ∀ d ∈ digits, d ∈ Color.hexDigits) (h : IsAt ('#' :: digits) ⟨first, places⟩)
    (hlonger : IsAt ('#' :: digits) ⟨first ++ mid, others⟩)
    (hwhole : whole ⟨first, places⟩ = whole ⟨first ++ mid, others⟩) : mid = [] := by
  by_contra hne
  obtain ⟨c, mid, rfl⟩ := List.exists_cons_of_ne_nil hne
  simp only [whole, written, id, List.append_assoc, List.append_cancel_left_eq] at hwhole
  cases places with
  | nil => simp at hwhole
  | cons part places =>
    have hkept : ∀ place, place <:+: c :: mid → ¬SameUpToCase place ('#' :: digits) :=
      fun place hinside => hlonger.first place (hinside.trans (List.suffix_append _ _).isInfix)
    refine not_place_of_kept hdigits hkept (head_of_isAt hlonger) ?_ (h.places part (by simp))
    rw [← hwhole, List.flatMap_cons, List.append_assoc]
    exact List.prefix_append _ _

lemma first_eq {cut other : Cut} (hdigits : ∀ d ∈ digits, d ∈ Color.hexDigits)
    (h : cut.IsAt ('#' :: digits)) (hother : other.IsAt ('#' :: digits))
    (hwhole : cut.whole = other.whole) : cut.first = other.first := by
  obtain ⟨first, places⟩ := cut
  obtain ⟨first', places'⟩ := other
  rcases List.append_eq_append_iff.mp hwhole with ⟨mid, rfl, -⟩ | ⟨mid, rfl, -⟩
  · rw [eq_nil_of_longer hdigits h hother hwhole, List.append_nil]
  · rw [eq_nil_of_longer hdigits hother h hwhole.symm, List.append_nil]

/-- Induction on the places: the first pieces agree, and so do the places behind them, which are as
long as the hex. -/
theorem eq_of_whole_eq {cut other : Cut} (hdigits : ∀ d ∈ digits, d ∈ Color.hexDigits)
    (h : cut.IsAt ('#' :: digits)) (hother : other.IsAt ('#' :: digits))
    (hwhole : cut.whole = other.whole) : cut = other := by
  obtain ⟨first, places⟩ := cut
  obtain ⟨first', places'⟩ := other
  induction places generalizing first first' places' with
  | nil =>
    obtain rfl : first = first' := first_eq hdigits h hother hwhole
    cases places' with
    | nil => rfl
    | cons part places' =>
      obtain ⟨more, hplace, -⟩ := head_of_sameUpToCase (hother.places part (by simp))
      simp [whole, written, hplace] at hwhole
  | cons part places ih =>
    obtain rfl : first = first' := first_eq hdigits h hother hwhole
    obtain ⟨place, kept⟩ := part
    obtain ⟨-, hplace, hrest⟩ := isAt_cons_iff.mp h
    cases places' with
    | nil =>
      obtain ⟨more, rfl, -⟩ := head_of_sameUpToCase hplace
      simp [whole, written] at hwhole
    | cons part' places' =>
      obtain ⟨place', kept'⟩ := part'
      obtain ⟨-, hplace', hrest'⟩ := isAt_cons_iff.mp hother
      rw [whole, whole, written_cons, written_cons, List.append_cancel_left_eq] at hwhole
      have hlength : place.length = place'.length := by
        simpa using congrArg List.length (hplace.trans hplace'.symm)
      obtain ⟨rfl, hafter⟩ := List.append_inj hwhole hlength
      obtain ⟨rfl, rfl⟩ := Cut.mk.inj (ih kept hrest kept' places' hrest' hafter)
      rfl

end Cut

/-! ### Spellings of a hex -/

/-- The base digits of a color are found in every spelling of its hex, whatever follows them. -/
lemma sameUpToCase_withoutAlpha {hex more : List Char} {color : Color}
    (h : SameUpToCase hex ('#' :: color.baseDigits ++ more)) :
    SameUpToCase (withoutAlpha hex) ('#' :: color.baseDigits) := by
  rw [SameUpToCase, List.map_append] at h
  obtain ⟨front, rest, rfl, hfront, -⟩ := List.map_eq_append_iff.mp h
  have hsize : ∀ c ∈ front, c.utf8Size = 1 := fun c hc =>
    utf8Size_of_toLower_mem <|
      toLower_mem_hexChars (mem_hexChars fun _ => Color.mem_hexDigits_of_mem_baseDigits) hfront c hc
  have hlength : front.length = 7 := by
    simpa [show color.baseDigits.length = 6 from rfl] using congrArg List.length hfront
  have htake : takeBytes? 7 (front ++ rest) = some front := hlength ▸ takeBytes?_append hsize rest
  rwa [withoutAlpha, htake, Option.getD_some]

lemma replaceHex_of_ne_nil {hex : List Char} (h : withoutAlpha hex ≠ []) (markup : List Char) :
    replaceHex hex markup = replaceFrom (withoutAlpha hex) 0 markup := by
  rw [replaceHex]
  split
  · contradiction
  · rfl

/-- A text is cut in exactly one way at the places of a color's hex. Every spelling of the hex, with
alpha or without, is replaced at these places, and nothing else is changed. -/
theorem useCurrentColor_recolors_cut (color : Color) (markup : String) :
    ∃ cut : Cut, cut.whole = markup.toList ∧ cut.IsAt color.baseHex.toList ∧
      (∀ other : Cut, other.whole = markup.toList → other.IsAt color.baseHex.toList →
        other = cut) ∧
      ∀ hex : String, SameUpToCase hex.toList color.baseHex.toList ∨
          SameUpToCase hex.toList color.hex.toList →
        (useCurrentColor markup hex).toList = cut.recolored := by
  have hdigits : ∀ d ∈ color.baseDigits, d ∈ Color.hexDigits :=
    fun _ => Color.mem_hexDigits_of_mem_baseDigits
  have hbase : color.baseHex.toList = '#' :: color.baseDigits := by
    rw [Color.baseHex_eq, String.toList_ofList]
  rw [hbase]
  obtain ⟨cut, hwhole, hcut⟩ := Cut.exists_isAt color.baseDigits markup.toList
  refine ⟨cut, hwhole, hcut, fun other hother hat =>
    Cut.eq_of_whole_eq hdigits hat hcut (hother.trans hwhole.symm), fun hex hhex => ?_⟩
  have hpattern : SameUpToCase (withoutAlpha hex.toList) ('#' :: color.baseDigits) := by
    rcases hhex with hplain | halpha
    · rw [← List.append_nil ('#' :: color.baseDigits)] at hplain
      exact sameUpToCase_withoutAlpha hplain
    · rw [Color.hex_eq, String.toList_ofList] at halpha
      exact sameUpToCase_withoutAlpha halpha
  have hne : withoutAlpha hex.toList ≠ [] := by
    obtain ⟨more, hmore, -⟩ := head_of_sameUpToCase hpattern
    rw [hmore]
    exact List.cons_ne_nil _ _
  rw [useCurrentColor, String.toList_ofList, replaceHex_of_ne_nil hne, ← hwhole,
    Cut.replaceFrom_whole hdigits hpattern hcut]

theorem useCurrentColor_recolors_cut_stroke :
    let color := { Color.ofBytes 30 41 59 with alpha := 0.5 }
    let markup := "<g fill=\"#1E293B\" stroke=\"#1e293bff\"/>"
    SameUpToCase "#1E293B80".toList color.hex.toList ∧
    useCurrentColor markup "#1E293B80" = "<g fill=\"currentColor\" stroke=\"currentColorff\"/>" ∧
    ∃ cut : Cut, cut.whole = markup.toList ∧ cut.IsAt color.baseHex.toList ∧
      (useCurrentColor markup "#1E293B80").toList = cut.recolored := by
  intro color markup
  have hhex : SameUpToCase "#1E293B80".toList color.hex.toList := by
    unfold SameUpToCase
    decide +kernel
  obtain ⟨cut, hwhole, hcut, -, hrecolored⟩ := useCurrentColor_recolors_cut color markup
  exact ⟨hhex, by decide +kernel, cut, hwhole, hcut, hrecolored _ (.inr hhex)⟩

end Markup

end UtilityMarkup
