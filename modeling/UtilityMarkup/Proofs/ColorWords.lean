import UtilityMarkup.Proofs.ClassTexts
import UtilityMarkup.Utility.Naming

/-!
# Classes of colors as words

The class of a color is a single word when the color is named by a variable, has a standard name or
has no name at all. The names in a palette are written as they are, so a blank in one of them
divides the class in two.
-/

namespace UtilityMarkup

/-! ### Names of variables -/

lemma unbroken_variableToken (name : String) : Text.Unbroken (variableToken name) := by
  rw [variableToken, Text.unbroken_ofList_iff, List.forall_mem_map]
  intro c hc
  split
  · decide
  · rename_i hkept
    simp only [Bool.or_eq_true, not_or, Bool.not_eq_true] at hkept
    exact hkept.2

lemma variableToken_eq_empty_iff {name : String} : variableToken name = "" ↔ Text.trim name = "" := by
  rw [variableToken, Text.trim, ← String.toList_eq_nil_iff, ← String.toList_eq_nil_iff,
    String.toList_ofList, String.toList_ofList, List.map_eq_nil_iff]

/-! ### Standard names -/

namespace Vocabulary

lemma isWord_of_mem_standardColors {hex name : String} (h : (hex, name) ∈ standardColors) :
    Text.IsWord name := by
  -- The names of families and shades are few, while spelling out every pair takes the kernel long.
  have hfamilies : ∀ family ∈ families, family.1 ≠ "" ∧ Text.Unbroken family.1 := by decide +kernel
  have hshades : ∀ shade ∈ shades, Text.Unbroken shade := by decide
  have hfixed : ∀ pair ∈ [("#000000", "black"), ("#ffffff", "white")],
      pair.2 ≠ "" ∧ Text.Unbroken pair.2 := by decide
  rw [standardColors, List.mem_append, List.mem_flatMap] at h
  rcases h with hmem | ⟨⟨family, hexes⟩, hfamily, hmem⟩
  · exact ⟨(hfixed _ hmem).1, (hfixed _ hmem).2⟩
  · change (hex, name) ∈ List.zipWith _ hexes shades at hmem
    rw [← List.map_uncurry_zip_eq_zipWith, List.mem_map] at hmem
    obtain ⟨⟨hex', shade⟩, hzip, hpair⟩ := hmem
    obtain ⟨-, rfl⟩ := Prod.mk.inj hpair
    obtain ⟨hne, hunbroken⟩ := hfamilies _ hfamily
    refine ⟨fun hempty => hne ?_, ?_⟩
    · exact (String.append_eq_empty_iff.mp (String.append_eq_empty_iff.mp hempty).1).1
    · exact (hunbroken.append (by decide)).append (hshades _ (List.of_mem_zip hzip).2)

lemma isWord_of_standard_find? {hex name : String} (h : standard.colors.find? hex = some name) :
    Text.IsWord name := by
  change (Palette.ofPairs standardColors).find? hex = some name at h
  rw [Palette.find?_ofPairs, Option.map_eq_some_iff] at h
  obtain ⟨⟨hex', name'⟩, hfound, rfl⟩ := h
  exact isWord_of_mem_standardColors (List.mem_of_find?_eq_some hfound)

end Vocabulary

/-! ### Classes -/

namespace Color

/-- What a named color has behind its name. -/
def alphaSuffix (color : Color) : String :=
  if color.isTranslucent then "/" ++ toString color.percent else ""

lemma unbroken_alphaSuffix (color : Color) : Text.Unbroken color.alphaSuffix := by
  have hslash : Text.Unbroken "/" := by decide
  unfold alphaSuffix
  split
  · exact hslash.append (Number.unbroken_toString _)
  · decide

lemma alphaSuffix_eq_empty_iff {color : Color} :
    color.alphaSuffix = "" ↔ color.isTranslucent = false := by
  cases h : color.isTranslucent <;> simp [alphaSuffix, h]

end Color

namespace Settings

variable {settings : Settings} {color : Color} {variableName stem : Option String} {name : String}

lemma color_of_name
    (h : (variableName.map variableToken).or (settings.colorName? color.baseHex) = some name) :
    settings.color color variableName stem = stemmed stem name ++ color.alphaSuffix := by
  unfold Settings.color
  rw [h]
  rfl

lemma isWord_named_iff (hstem : ∀ text ∈ stem, Text.Unbroken text) (color : Color) (name : String) :
    Text.IsWord (stemmed stem name ++ color.alphaSuffix) ↔
      Text.Unbroken name ∧ (name ≠ "" ∨ stem.isSome ∨ color.isTranslucent) := by
  have halpha := color.unbroken_alphaSuffix
  cases stem with
  | some text =>
    have hfront : Text.Unbroken (text ++ "-") := (hstem text rfl).append (by decide)
    constructor
    · intro h
      have hname := (Text.unbroken_append_iff.mp h.unbroken).1
      exact ⟨(Text.unbroken_append_iff.mp hname).2, .inr (.inl rfl)⟩
    · rintro ⟨hname, -⟩
      exact ⟨by simp [stemmed], (hfront.append hname).append halpha⟩
  | none =>
    have hempty : name ++ color.alphaSuffix = "" ↔ name = "" ∧ color.isTranslucent = false := by
      rw [String.append_eq_empty_iff, Color.alphaSuffix_eq_empty_iff]
    constructor
    · intro h
      refine ⟨(Text.unbroken_append_iff.mp h.unbroken).1, ?_⟩
      by_contra hnothing
      simp only [not_or, ne_eq, not_not, Bool.not_eq_true] at hnothing
      exact h.ne_empty (hempty.mpr ⟨hnothing.1, hnothing.2.2⟩)
    · rintro ⟨hname, hsome⟩
      refine ⟨fun h => ?_, hname.append halpha⟩
      obtain ⟨rfl, hsolid⟩ := hempty.mp h
      simp [hsolid] at hsome

lemma isWord_color_of_unnamed (hstem : ∀ text ∈ stem, Text.Unbroken text)
    (h : settings.colorName? color.baseHex = none) :
    Text.IsWord (settings.color color none stem) := by
  simp only [Settings.color, Option.map_none, Option.none_or, h]
  cases stem with
  | some text =>
    have hopening : Text.Unbroken "-[" := by decide
    exact ⟨by simp, (((hstem text rfl).append hopening).append color.unbroken_hex).append (by decide)⟩
  | none => exact ⟨by simp [Color.hex_eq], color.unbroken_hex⟩

lemma isWord_color_variable_iff (hstem : ∀ text ∈ stem, Text.Unbroken text) :
    Text.IsWord (settings.color color (some name) stem) ↔
      Text.trim name ≠ "" ∨ stem.isSome ∨ color.isTranslucent := by
  rw [color_of_name rfl, isWord_named_iff hstem, ne_eq, variableToken_eq_empty_iff]
  exact and_iff_right (unbroken_variableToken name)

lemma isWord_color_iff (hstem : ∀ text ∈ stem, Text.Unbroken text) :
    Text.IsWord (settings.color color none stem) ↔
      ∀ name, settings.colorName? color.baseHex = some name →
        Text.Unbroken name ∧ (name ≠ "" ∨ stem.isSome ∨ color.isTranslucent) := by
  cases hname : settings.colorName? color.baseHex with
  | some name =>
    have hfound : ((none : Option String).map variableToken).or
        (settings.colorName? color.baseHex) = some name := hname
    rw [color_of_name hfound, isWord_named_iff hstem]
    simp
  | none => exact iff_of_true (isWord_color_of_unnamed hstem hname) (by simp)

lemma isWord_color_of_standard (hstem : ∀ text ∈ stem, Text.Unbroken text)
    (hother : settings.overridingName? color.baseHex = none)
    (hstandard : settings.vocabulary.colors = Vocabulary.standard.colors) :
    Text.IsWord (settings.color color none stem) := by
  rw [isWord_color_iff hstem]
  intro name hname
  rw [colorName?, hother, Option.none_or, hstandard] at hname
  have hword := Vocabulary.isWord_of_standard_find? hname
  exact ⟨hword.unbroken, .inl hword.ne_empty⟩

/-- Behind a stem without blanks, the class of a color that a variable names is a word, unless the
name is blank and nothing stands around it. The class of any other color is a word exactly when its
name, if it has one, has no blanks and does not leave the class empty; so it is a word when only
standard names are asked for. The class stays one class in the text of a list exactly when it is a
word. -/
theorem color_isWord (settings : Settings) (color : Color) {stem : Option String}
    (hstem : ∀ text ∈ stem, Text.Unbroken text) :
    (∀ name, Text.IsWord (settings.color color (some name) stem) ↔
      Text.trim name ≠ "" ∨ stem.isSome ∨ color.isTranslucent) ∧
    (Text.IsWord (settings.color color none stem) ↔
      ∀ name, settings.colorName? color.baseHex = some name →
        Text.Unbroken name ∧ (name ≠ "" ∨ stem.isSome ∨ color.isTranslucent)) ∧
    (settings.overridingName? color.baseHex = none →
      settings.vocabulary.colors = Vocabulary.standard.colors →
      Text.IsWord (settings.color color none stem)) ∧
    ∀ variableName (before after : Classes),
      Text.words (before.push (settings.color color variableName stem) ++ after).text =
          Text.words before.text ++
            settings.color color variableName stem :: Text.words after.text ↔
        Text.IsWord (settings.color color variableName stem) :=
  ⟨fun _ => isWord_color_variable_iff hstem, isWord_color_iff hstem, isWord_color_of_standard hstem,
    fun _ _ _ => Classes.words_push_append_iff⟩

def brandPalette : Settings where
  imported? := some (.ofPairs [("#000000", "brand blue")])

theorem color_isWord_brand :
    (∀ text ∈ some "bg", Text.Unbroken text) ∧
      Text.IsWord (brandPalette.color ⟨0, 0, 0, 0.5⟩ (some "brand/primary 500") (some "bg")) := by
  have hstem : ∀ text ∈ some "bg", Text.Unbroken text := by
    rintro text ⟨⟩
    decide
  exact ⟨hstem, ((color_isWord brandPalette ⟨0, 0, 0, 0.5⟩ hstem).1 _).mpr (.inr (.inl rfl))⟩

/-- The name of a color in the palette has a blank, and the class of the color becomes two. -/
theorem brandPalette_divides_class :
    Text.Unbroken "bg" ∧ ¬Text.IsWord (brandPalette.color ⟨0, 0, 0, 1⟩ none (some "bg")) ∧
      Text.words (Classes.ofList [brandPalette.color ⟨0, 0, 0, 1⟩ none (some "bg")]).text =
        ["bg-brand", "blue"] := by
  have hcolor : brandPalette.color ⟨0, 0, 0, 1⟩ none (some "bg") = "bg-brand blue" := by
    decide +kernel
  rw [hcolor]
  exact ⟨by decide, fun h => absurd h.unbroken (by decide), by decide +kernel⟩

end Settings

end UtilityMarkup
