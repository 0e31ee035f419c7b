import Mathlib
import UtilityMarkup.Number.Literal

/-!
# Signs of numbers

The sign of a number stands in front of its literal, and what follows is the literal of its
magnitude. Literals are read from the bits of a number, while comparisons and magnitudes are those
of the unpacked number, so both are brought together first: bits are read as the number that they
unpack to, and nothing gets lost when the magnitude is packed again.
-/

namespace UtilityMarkup.Number

open Float.Model (Format UnpackedFloat)
open Float.Model.UnpackedFloat

/-! ### Unpacking -/

/-- The number that a sign, a biased exponent and a fraction stand for. -/
inductive Unpacks (sign : Sign) : Nat → Nat → UnpackedFloat → Prop
  | infinity : Unpacks sign 2047 0 (.infinity sign)
  | nan {fraction : Nat} (hfraction : fraction ≠ 0) : Unpacks sign 2047 fraction .notANumber
  | zero : Unpacks sign 0 0 (.zero sign)
  | subnormal {fraction : Nat} (hpos : 0 < fraction) (hlt : fraction < hiddenBit) :
    Unpacks sign 0 fraction (.finite sign fraction (-1074) hpos)
  | normal {biased fraction : Nat} (hlow : biased ≠ 0) (hhigh : biased < 2047)
    (hlt : fraction < hiddenBit) (hpos : 0 < hiddenBit + fraction) :
    Unpacks sign biased fraction (.finite sign (hiddenBit + fraction) (biased - 1075) hpos)

lemma toNat_one_append (mantissa : BitVec 52) :
    (1#1 ++ mantissa).toNat = hiddenBit + mantissa.toNat := by
  rw [BitVec.toNat_append, ← Nat.shiftLeft_add_eq_or_of_lt mantissa.isLt]
  rfl

lemma unpacks_unpack (bits : BitVec Format.binary64.numBits) :
    Unpacks (.ofBitVec (unpackSign bits)) (unpackExponent bits).toNat (unpackMantissa bits).toNat
      (unpack .binary64 bits) := by
  have hfraction : (unpackMantissa bits).toNat < hiddenBit := (unpackMantissa bits).isLt
  have hbiased : (unpackExponent bits).toNat < 2048 := (unpackExponent bits).isLt
  unfold Float.Model.UnpackedFloat.unpack
  dsimp only
  split
  · rename_i hfull
    have hexponent : (unpackExponent bits).toNat = 2047 := congrArg BitVec.toNat hfull
    rw [hexponent]
    split
    · rename_i hzero
      rw [hzero]
      exact .infinity
    · rename_i hzero
      exact .nan fun h => hzero (BitVec.eq_of_toNat_eq h)
  · rename_i hfull
    have hne : (unpackExponent bits).toNat ≠ 2047 := fun h => hfull (BitVec.eq_of_toNat_eq h)
    split
    · rename_i hnone
      have hexponent : (unpackExponent bits).toNat = 0 := congrArg BitVec.toNat hnone
      split
      · rename_i hzero
        rw [hexponent, hzero]
        exact .zero
      · simp only [hexponent]
        exact .subnormal _ hfraction
    · rename_i hnone
      simp only [toNat_one_append]
      exact .normal (fun h => hnone (BitVec.eq_of_toNat_eq h)) (by omega) hfraction _

/-! ### Packing again -/

section Packing

variable {sign : Sign} {biased fraction : Nat} {unpacked other : UnpackedFloat}

lemma ofBitVec_unpackSign_packComponents (sign : Sign) (exponent : BitVec 11)
    (mantissa : BitVec 52) :
    Sign.ofBitVec (unpackSign (packComponents .binary64 sign exponent mantissa)) = sign := by
  simp only [unpackSign, packComponents, BitVec.extractLsb]
  rw [BitVec.extractLsb'_append_eq_of_le (by omega), BitVec.extractLsb'_append_eq_of_le (by omega)]
  cases sign <;> rfl

namespace Unpacks

lemma inj (h : Unpacks sign biased fraction unpacked) (hother : Unpacks sign biased fraction other) :
    unpacked = other := by
  -- Fields that two rules fit would have to be zero and not zero, or full and not full.
  cases h <;> cases hother <;> trivial

/-- The fields of a number fit into its bits. A NaN is packed with a fraction of its own. -/
lemma fields_lt (h : Unpacks sign biased fraction unpacked) (hnan : unpacked ≠ .notANumber) :
    biased < 2 ^ 11 ∧ fraction < 2 ^ 52 := by
  cases h with
  | nan => exact absurd rfl hnan
  | infinity | zero => decide
  | subnormal _ hlt => exact ⟨by decide, hlt⟩
  | normal _ hhigh hlt _ => exact ⟨by omega, hlt⟩

lemma pack_eq (h : Unpacks sign biased fraction unpacked) (hnan : unpacked ≠ .notANumber) :
    pack .binary64 unpacked =
      packComponents .binary64 sign (.ofNat 11 biased) (.ofNat 52 fraction) := by
  have hbits : Format.binary64.mantissaBits = 53 := rfl
  have hbias : (Format.binary64.exponentBias : Int) = 1023 := rfl
  cases h with
  | infinity | zero => rfl
  | nan => exact absurd rfl hnan
  | subnormal hpos hlt =>
    have hlog : fraction.log2 < 52 := (Nat.log2_lt (Nat.ne_of_gt hpos)).mpr hlt
    simp only [pack]
    rw [if_neg (by decide), if_neg (by omega)]
  | normal hlow hhigh hlt hpos =>
    have hlog : (hiddenBit + fraction).log2 = 52 := by
      rw [Nat.log2_eq_iff (Nat.ne_of_gt hpos)]
      simp only [hiddenBit] at hlt ⊢
      omega
    have hexponent :
        ((biased : Int) - 1075 + Format.binary64.exponentBias + (52 : Nat)).toNat = biased := by
      omega
    -- The bit in front of the fraction is cut off.
    have hfraction : BitVec.ofNat 52 (hiddenBit + fraction) = BitVec.ofNat 52 fraction := by
      refine BitVec.eq_of_toNat_eq ?_
      simp only [BitVec.toNat_ofNat, hiddenBit]
      omega
    simp only [pack, hexponent]
    rw [if_neg (by omega), if_pos (by omega), hfraction]

lemma unpack_pack (h : Unpacks sign biased fraction unpacked) :
    unpack .binary64 (pack .binary64 unpacked) = unpacked := by
  by_cases hnan : unpacked = .notANumber
  · subst hnan
    rfl
  · obtain ⟨hbiased, hfraction⟩ := h.fields_lt hnan
    have hpacked := unpacks_unpack (pack .binary64 unpacked)
    rw [h.pack_eq hnan, ofBitVec_unpackSign_packComponents, unpackExponent_packComponents,
      unpackMantissa_packComponents, BitVec.toNat_ofNat, BitVec.toNat_ofNat,
      Nat.mod_eq_of_lt hbiased, Nat.mod_eq_of_lt hfraction, ← h.pack_eq hnan] at hpacked
    exact hpacked.inj h

/-- A magnitude has the exponent and the fraction of the number. -/
lemma abs (h : Unpacks sign biased fraction unpacked) :
    Unpacks .positive biased fraction unpacked.abs := by
  cases h with
  | infinity => exact .infinity
  | nan hfraction => exact .nan hfraction
  | zero => exact .zero
  | subnormal hpos hlt => exact .subnormal hpos hlt
  | normal hlow hhigh hlt hpos => exact .normal hlow hhigh hlt hpos

end Unpacks

lemma unpack_abs (x : Float) : x.abs.toModel.unpack = x.toModel.unpack.abs :=
  (unpacks_unpack x.toModel.toBits.toBitVec).abs.unpack_pack

end Packing

/-! ### Reading -/

def isNegative : Sign → Bool
  | .negative => true
  | .positive => false

def Reading.ofUnpacked : UnpackedFloat → Reading
  | .notANumber => nan
  | .infinity sign => infinite (isNegative sign)
  | .zero sign => finite (isNegative sign) 0 (-1074)
  | .finite sign significand exponent _ => finite (isNegative sign) significand exponent

section Fields

variable (bits : BitVec Format.binary64.numBits)

lemma toNat_unpackMantissa : (unpackMantissa bits).toNat = bits.toNat % hiddenBit := by
  simp [unpackMantissa, hiddenBit]

lemma toNat_unpackExponent : (unpackExponent bits).toNat = (bits.toNat >>> 52) % 2048 := by
  simp [unpackExponent]

lemma isNegative_unpackSign :
    isNegative (.ofBitVec (unpackSign bits)) = bits.toNat.testBit 63 := by
  have hsign : (unpackSign bits).toNat = (bits.toNat >>> 63) % 2 := by simp [unpackSign]
  rw [Nat.testBit_eq_decide_div_mod_eq, ← Nat.shiftRight_eq_div_pow, ← hsign]
  generalize unpackSign bits = bit
  revert bit
  decide

end Fields

/-- Bits are read as the number that they unpack to. -/
theorem read_eq_ofUnpacked (x : Float) : read x = .ofUnpacked x.toModel.unpack := by
  let bits : BitVec Format.binary64.numBits := x.toModel.toBits.toBitVec
  have hread : read x =
      let negative := isNegative (.ofBitVec (unpackSign bits))
      let biased := (unpackExponent bits).toNat
      let fraction := (unpackMantissa bits).toNat
      if biased = 2047 then if fraction = 0 then .infinite negative else .nan
      else if biased = 0 then .finite negative fraction (-1074)
      else .finite negative (hiddenBit + fraction) ((biased : Int) - 1075) := by
    rw [toNat_unpackExponent, toNat_unpackMantissa, isNegative_unpackSign]
    rfl
  have hunpacks : Unpacks (.ofBitVec (unpackSign bits)) (unpackExponent bits).toNat
      (unpackMantissa bits).toNat x.toModel.unpack := unpacks_unpack bits
  rw [hread]
  generalize (unpackExponent bits).toNat = biased, (unpackMantissa bits).toNat = fraction,
    x.toModel.unpack = unpacked at hunpacks ⊢
  cases hunpacks with
  | infinity | zero | subnormal => rfl
  | nan hfraction => exact if_neg hfraction
  | normal hlow hhigh => exact (if_neg (by omega)).trans (if_neg hlow)

/-! ### Signs -/

lemma beq_zero (x : Float) : (x == 0) = x.toModel.unpack.beq (.zero .positive) :=
  rfl

lemma decide_lt_zero (x : Float) : decide (x < 0) = x.toModel.unpack.lt (.zero .positive) := by
  rw [Bool.eq_iff_iff, decide_eq_true_iff]
  exact decide_eq_true_iff

/-- A number is written with its sign in front of its magnitude. A zero has no sign, whatever its
bits are. -/
theorem literal_eq_signText_append (x : Float) :
    literal x = signText (decide (x < 0)) ++ literal x.abs := by
  simp only [literal, text, read_eq_ofUnpacked, unpack_abs, decide_lt_zero, beq_zero]
  generalize x.toModel.unpack = unpacked
  cases unpacked with
  | notANumber => rfl
  | infinity sign | zero sign => cases sign <;> rfl
  | finite sign significand exponent hpos =>
    cases significand with
    | zero => exact absurd hpos (Nat.lt_irrefl 0)
    | succ n => cases sign <;> rfl

end UtilityMarkup.Number
