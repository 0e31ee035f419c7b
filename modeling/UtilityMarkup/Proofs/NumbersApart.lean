import Mathlib.Data.List.Nodup
import UtilityMarkup.Proofs.NumberClasses

/-!
# Numbers told apart

A standard scale gives no name twice, and its names have no dashes and do not end in a bracket. So
the class of a number shows whether the number has a name, which name and sign it has, or else its
literal, whatever dashes and brackets stand in the stem.
-/

namespace UtilityMarkup

namespace Scale

/-- A name belongs to one number, and can be taken neither for a negated name nor for a literal. -/
structure TellsApart (scale : Scale) : Prop where
  key_eq : ∀ {value other : Float} {name : String},
    scale.find? value = some name → scale.find? other = some name → key value = key other
  no_dash : ∀ {value : Float} {name : String}, scale.find? value = some name → '-' ∉ name.toList
  no_bracket : ∀ {value : Float} {name : String},
    scale.find? value = some name → name.toList.getLast? ≠ some ']'

/-- Both numbers have names, and the same one with the same sign. -/
structure SameName (scale : Scale) (first second : Float) : Prop where
  named : (scale.find? first.abs).isSome ∧ (scale.find? second.abs).isSome
  same_key : key first.abs = key second.abs
  sign : first < 0 ↔ second < 0

/-- Neither number has a name, and they are written alike. -/
structure SameLiteral (scale : Scale) (first second : Float) : Prop where
  unnamed : scale.find? first.abs = none ∧ scale.find? second.abs = none
  literal : Number.literal first = Number.literal second

lemma find?_congr (scale : Scale) {value other : Float} (h : key value = key other) :
    scale.find? value = scale.find? other := by
  rw [find?, find?, h]

lemma exists_pair_of_find? {pairs : List (Float × String)} {value : Float} {name : String}
    (h : (ofPairs pairs).find? value = some name) :
    ∃ pair ∈ pairs, key pair.1 = key value ∧ pair.2 = name := by
  rw [find?_ofPairs, Option.map_eq_some_iff] at h
  obtain ⟨pair, hpair, hname⟩ := h
  exact ⟨pair, List.mem_reverse.mp (List.mem_of_find?_eq_some hpair),
    by simpa using List.find?_some hpair, hname⟩

lemma tellsApart_ofPairs {pairs : List (Float × String)} (hnodup : (pairs.map (·.2)).Nodup)
    (hnames : ∀ pair ∈ pairs, '-' ∉ pair.2.toList ∧ pair.2.toList.getLast? ≠ some ']') :
    (ofPairs pairs).TellsApart where
  key_eq := by
    intro value other name hvalue hother
    obtain ⟨pair, hpair, hkey, hname⟩ := exists_pair_of_find? hvalue
    obtain ⟨pair', hpair', hkey', hname'⟩ := exists_pair_of_find? hother
    obtain rfl := List.inj_on_of_nodup_map hnodup hpair hpair' (hname.trans hname'.symm)
    exact hkey.symm.trans hkey'
  no_dash := by
    intro value name hvalue
    obtain ⟨pair, hpair, -, rfl⟩ := exists_pair_of_find? hvalue
    exact (hnames pair hpair).1
  no_bracket := by
    intro value name hvalue
    obtain ⟨pair, hpair, -, rfl⟩ := exists_pair_of_find? hvalue
    exact (hnames pair hpair).2

end Scale

namespace Number

/-! ### Signs and values around a stem -/

variable {negative negative' : Bool} {stem name name' : String}

/-- Without dashes in the values, the number of dashes shows the sign. -/
lemma signed_name_eq_iff (hname : '-' ∉ name.toList) (hname' : '-' ∉ name'.toList) :
    signText negative ++ stem ++ "-" ++ name = signText negative' ++ stem ++ "-" ++ name' ↔
      negative = negative' ∧ name = name' := by
  constructor
  · intro h
    have hdashes : (signText negative).toList.count '-' = (signText negative').toList.count '-' := by
      have hcount := congrArg (fun text => text.toList.count '-') h
      simp only [String.toList_append, List.count_append, List.count_eq_zero.mpr hname,
        List.count_eq_zero.mpr hname'] at hcount
      omega
    have hsign : negative = negative' := by
      revert hdashes
      cases negative <;> cases negative' <;> decide
    subst hsign
    exact ⟨rfl, by simpa [String.ext_iff] using h⟩
  · rintro ⟨rfl, rfl⟩
    rfl

lemma getLast?_bracketed (front value : String) :
    (front ++ ("[" ++ value ++ "px]")).toList.getLast? = some ']' := by
  have hend : "px]".toList.getLast? = some ']' := by decide
  rw [String.toList_append, String.toList_append, List.getLast?_append, List.getLast?_append, hend]
  rfl

lemma getLast?_behind_dash (front name : String) :
    (front ++ "-" ++ name).toList.getLast? = some (name.toList.getLast?.getD '-') := by
  have hdash : "-".toList.getLast? = some '-' := by decide
  rw [String.toList_append, String.toList_append, List.getLast?_append, List.getLast?_append, hdash]
  cases name.toList.getLast? <;> rfl

/-- What ends in a bracket is no name, since a name does not end in one. -/
lemma signed_name_ne_bracketed (hname : name.toList.getLast? ≠ some ']') (front value : String) :
    signText negative ++ stem ++ "-" ++ name ≠ front ++ ("[" ++ value ++ "px]") := by
  intro h
  have hlast := (getLast?_behind_dash _ name).symm.trans (h ▸ getLast?_bracketed front value)
  cases hend : name.toList.getLast? with
  | none =>
    rw [hend] at hlast
    exact absurd (Option.some.inj hlast) (by decide)
  | some c =>
    rw [hend] at hlast hname
    exact hname hlast

end Number

namespace Vocabulary

variable {vocabulary : Vocabulary} {quantity : Quantity} {scale : Scale} {first second : Float}

lemma number_eq_empty_iff (vocabulary : Vocabulary) (quantity : Quantity) (stem : String)
    (value : Float) :
    vocabulary.number quantity (some stem) value = "" ↔ (value == 0) = true := by
  constructor
  · intro h
    by_contra hzero
    obtain ⟨negative, text, hspells⟩ := exists_spells vocabulary quantity (by simpa using hzero)
    rw [hspells stem, String.append_eq_empty_iff, String.append_eq_empty_iff] at h
    exact absurd h.1.2 (by decide)
  · exact number_of_zero _

lemma number_eq_number_iff (hscale : vocabulary.scale? quantity = some scale)
    (hapart : scale.TellsApart) (stem : String) (hfirst : (first == 0) = false)
    (hsecond : (second == 0) = false) :
    vocabulary.number quantity (some stem) first = vocabulary.number quantity (some stem) second ↔
      scale.SameName first second ∨ scale.SameLiteral first second := by
  -- Only a literal ends in a bracket, so a number with a name never agrees with one without.
  cases hname : scale.find? first.abs with
  | some name =>
    have hno : ¬scale.SameLiteral first second := fun h => by
      rw [h.unnamed.1] at hname
      cases hname
    rw [spells_of_find? hfirst hscale hname stem, or_iff_left hno]
    cases hname' : scale.find? second.abs with
    | some name' =>
      rw [spells_of_find? hsecond hscale hname' stem,
        Number.signed_name_eq_iff (hapart.no_dash hname) (hapart.no_dash hname'), decide_eq_decide]
      constructor
      · rintro ⟨hsign, rfl⟩
        exact ⟨by simp [hname, hname'], hapart.key_eq hname hname', hsign⟩
      · intro h
        rw [scale.find?_congr h.same_key, hname', Option.some.injEq] at hname
        exact ⟨h.sign, hname.symm⟩
    | none =>
      rw [spells_of_find?_eq_none hsecond hscale hname' stem]
      refine iff_of_false (Number.signed_name_ne_bracketed (hapart.no_bracket hname) _ _) fun h => ?_
      simpa [hname'] using h.named.2
  | none =>
    have hno : ¬scale.SameName first second := fun h => by simpa [hname] using h.named.1
    rw [spells_of_find?_eq_none hfirst hscale hname stem, or_iff_right hno]
    cases hname' : scale.find? second.abs with
    | some name' =>
      rw [spells_of_find? hsecond hscale hname' stem]
      refine iff_of_false (Number.signed_name_ne_bracketed (hapart.no_bracket hname') _ _).symm
        fun h => ?_
      rw [h.unnamed.2] at hname'
      cases hname'
    | none =>
      rw [spells_of_find?_eq_none hsecond hscale hname' stem]
      constructor
      · intro h
        exact ⟨⟨hname, hname'⟩, by simpa [String.ext_iff] using h⟩
      · intro h
        rw [h.literal]

/-! ### The standard scales -/

lemma tellsApart_of_standard (hscale : standard.scale? quantity = some scale) :
    scale.TellsApart := by
  cases quantity with
  | spacing =>
    cases hscale
    exact Scale.tellsApart_ofPairs (by decide) (by decide)
  | textSize =>
    cases hscale
    exact Scale.tellsApart_ofPairs (by decide) (by decide)
  | textWeight =>
    cases hscale
    exact Scale.tellsApart_ofPairs (by decide) (by decide)
  | radius =>
    cases hscale
    exact Scale.tellsApart_ofPairs (by decide) (by decide)
  | color | border | rotation => cases hscale

/-- On each standard scale (of spacing, text sizes, text weights and radii) and behind every stem, zero
and no other number has an empty class, and two other numbers have the same class exactly when they
have the same name and the same sign, or neither has a name and they have the same literal. -/
theorem standard_number_eq_iff (hscale : standard.scale? quantity = some scale) (stem : String)
    (first second : Float) :
    (standard.number quantity (some stem) first = "" ↔ (first == 0) = true) ∧
    ((first == 0) = false → (second == 0) = false →
      (standard.number quantity (some stem) first = standard.number quantity (some stem) second ↔
        scale.SameName first second ∨ scale.SameLiteral first second)) :=
  ⟨number_eq_empty_iff _ _ _ _, number_eq_number_iff hscale (tellsApart_of_standard hscale) stem⟩

-- Neither the dash nor the bracket in this stem is taken for a part of the number.
theorem standard_number_eq_iff_inset :
    standard.scale? .spacing = some standard.spacing ∧ ((16 : Float) == 0) = false ∧
      ((-16 : Float) == 0) = false ∧
      standard.number .spacing (some "-[") 16 ≠ standard.number .spacing (some "-[") (-16) := by
  have hfirst : ((16 : Float) == 0) = false := by decide
  have hsecond : ((-16 : Float) == 0) = false := by decide
  refine ⟨rfl, hfirst, hsecond, fun h => ?_⟩
  rcases ((standard_number_eq_iff rfl "-[" 16 (-16)).2 hfirst hsecond).mp h with hname | hliteral
  · exact absurd hname.sign (by decide)
  · exact absurd hliteral.unnamed.1 (by decide +kernel)

end Vocabulary

end UtilityMarkup
