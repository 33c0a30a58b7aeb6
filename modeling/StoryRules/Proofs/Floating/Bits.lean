import Mathlib
import StoryRules.Amount

/-!
# The bits of floating numbers

A floating number is 64 bits: a sign, eleven bits of exponent and 52 of fraction.  What they are read as is
what they were written from, in both directions.

    Canonical m e → e ≤ 971 → unpack (pack (.finite s m e _)) = .finite s m e _      (unpack_pack_finite)
    Float.ofModel (pack x.toModel.unpack) = x                                        (ofModel_pack_unpack)
-/

namespace StoryRules.Amount

open Float.Model UnpackedFloat

/-! ## Fields -/

theorem toNat_unpackExponent (b : BitVec Format.binary64.numBits) :
    (unpackExponent b).toNat = b.toNat / 2 ^ 52 % 2 ^ 11 := by
  simp [unpackExponent_def, Nat.shiftRight_eq_div_pow]

theorem toNat_unpackMantissa (b : BitVec Format.binary64.numBits) :
    (unpackMantissa b).toNat = b.toNat % 2 ^ 52 := by
  simp [unpackMantissa_def]

theorem toNat_unpackSign (b : BitVec Format.binary64.numBits) :
    (unpackSign b).toNat = b.toNat / 2 ^ 63 % 2 := by
  simp [unpackSign_def, Nat.shiftRight_eq_div_pow]

/-- The sign that the topmost bit stands for. -/
theorem unpackSign_eq (bits : UInt64) :
    Sign.ofBitVec (@unpackSign Format.binary64 bits.toBitVec) =
      if bits >>> 63 = 1 then .negative else .positive := by
  have hshift : (bits >>> 63).toNat = bits.toNat / 2 ^ 63 := by
    rw [UInt64.toNat_shiftRight]
    exact Nat.shiftRight_eq_div_pow _ _
  have hlt : bits.toNat < 2 ^ 64 := bits.toNat_lt
  have hsign := toNat_unpackSign bits.toBitVec
  rw [UInt64.toNat_toBitVec] at hsign
  unfold Sign.ofBitVec
  by_cases hbit : bits.toNat / 2 ^ 63 = 0
  · have hzero : @unpackSign Format.binary64 bits.toBitVec = 0#1 := by
      apply BitVec.eq_of_toNat_eq
      rw [hsign, hbit]
      rfl
    have hone : ¬bits >>> 63 = 1 := by
      intro h
      rw [h] at hshift
      have : (1 : UInt64).toNat = 1 := rfl
      omega
    rw [if_pos hzero, if_neg hone]
  · have hzero : ¬@unpackSign Format.binary64 bits.toBitVec = 0#1 := by
      intro h
      rw [h] at hsign
      have : (0#1).toNat = 0 := rfl
      omega
    have hone : bits >>> 63 = 1 := by
      apply UInt64.toNat_inj.1
      rw [hshift]
      show _ = 1
      omega
    rw [if_neg hzero, if_pos hone]

/-- The leading bit of a normal number, which is not kept, is the topmost of its mantissa. -/
theorem toNat_one_append (mantissa : BitVec Format.binary64.mantissaBitsWithoutImplicit) :
    (1#1 ++ mantissa).toNat = 2 ^ 52 + mantissa.toNat := by
  rw [BitVec.toNat_append]
  exact (Nat.shiftLeft_add_eq_or_of_lt mantissa.isLt 1).symm

/-- The three fields make up the bits. -/
theorem packComponents_fields (b : BitVec Format.binary64.numBits) :
    packComponents Format.binary64 (Sign.ofBitVec (unpackSign b)) (unpackExponent b)
      (unpackMantissa b) = b := by
  have hsign : (Sign.ofBitVec (unpackSign b)).toBitVec = unpackSign b := by
    unfold Sign.ofBitVec
    split
    · next h => exact h.symm
    · next h =>
      have := (unpackSign b).isLt
      refine BitVec.eq_of_toNat_eq ?_
      have : (unpackSign b).toNat ≠ 0 := fun h' => h (BitVec.eq_of_toNat_eq h')
      show 1 = _
      omega
  have hlt : b.toNat < 2 ^ 64 := b.isLt
  have hexponent := toNat_unpackExponent b
  have hmantissa := toNat_unpackMantissa b
  have htop := toNat_unpackSign b
  apply BitVec.eq_of_toNat_eq
  unfold packComponents
  rw [hsign, BitVec.toNat_append, BitVec.toNat_append,
    ← Nat.shiftLeft_add_eq_or_of_lt (unpackMantissa b).isLt,
    ← Nat.shiftLeft_add_eq_or_of_lt (unpackExponent b).isLt, Nat.shiftLeft_eq, Nat.shiftLeft_eq, htop,
    hexponent, hmantissa]
  show (b.toNat / 2 ^ 63 % 2 * 2 ^ 11 + b.toNat / 2 ^ 52 % 2 ^ 11) * 2 ^ 52 + b.toNat % 2 ^ 52 = b.toNat
  omega

/-! ## Magnitudes -/

/-- The absolute value that the bits of a finite number stand for. -/
def magnitude (bits : UInt64) : Decimal.Binary :=
  Decimal.Binary.ofBits (bits &&& 0x7FFFFFFFFFFFFFFF)

theorem magnitude_eq (bits : UInt64) :
    magnitude bits =
      if bits.toNat / 2 ^ 52 % 2 ^ 11 = 0 then ⟨bits.toNat % 2 ^ 52, -1074, false⟩
      else ⟨2 ^ 52 + bits.toNat % 2 ^ 52, (bits.toNat / 2 ^ 52 % 2 ^ 11 : ℕ) - 1075,
        bits.toNat % 2 ^ 52 = 0 && bits.toNat / 2 ^ 52 % 2 ^ 11 > 1⟩ := by
  have hlow : (bits &&& 0x7FFFFFFFFFFFFFFF).toNat = bits.toNat % 2 ^ 63 := by
    rw [UInt64.toNat_and]
    exact Nat.and_two_pow_sub_one_eq_mod _ 63
  have hexponent : (((bits &&& 0x7FFFFFFFFFFFFFFF) >>> 52) &&& 0x7FF).toNat =
      bits.toNat / 2 ^ 52 % 2 ^ 11 := by
    rw [UInt64.toNat_and, UInt64.toNat_shiftRight, hlow]
    refine (Nat.and_two_pow_sub_one_eq_mod _ 11).trans ?_
    show (bits.toNat % 2 ^ 63) >>> 52 % 2 ^ 11 = _
    rw [Nat.shiftRight_eq_div_pow]
    omega
  have hfraction : ((bits &&& 0x7FFFFFFFFFFFFFFF) &&& 0xFFFFFFFFFFFFF).toNat =
      bits.toNat % 2 ^ 52 := by
    rw [UInt64.toNat_and, hlow]
    refine (Nat.and_two_pow_sub_one_eq_mod _ 52).trans ?_
    omega
  unfold magnitude Decimal.Binary.ofBits
  dsimp only
  rw [hexponent, hfraction]
  rfl

/-- A mantissa and an exponent as floating numbers have them. -/
structure Canonical (m : Nat) (e : Int) : Prop where
  lt : m < 2 ^ 53
  least : -1074 ≤ e
  normal : e = -1074 ∨ 2 ^ 52 ≤ m

/-! ## Reading bits -/

/-- What the bits say of a number that is read as a finite one. -/
theorem unpack_finite {b : UInt64} {s : Sign} {m : Nat} {e : Int} {hm : 0 < m}
    (h : UnpackedFloat.unpack Format.binary64 b.toBitVec = .finite s m e hm) :
    s = (if b >>> 63 = 1 then .negative else .positive) ∧
      magnitude b = ⟨m, e, decide (m = 2 ^ 52 ∧ -1074 < e)⟩ ∧ Canonical m e ∧ e ≤ 971 := by
  have hexponent := toNat_unpackExponent b.toBitVec
  have hmantissa := toNat_unpackMantissa b.toBitVec
  have hbias : Format.binary64.exponentBias = 1023 := rfl
  rw [UInt64.toNat_toBitVec] at hexponent hmantissa
  unfold UnpackedFloat.unpack at h
  dsimp only at h
  rw [unpackSign_eq, hbias] at h
  rw [magnitude_eq, ← hexponent, ← hmantissa]
  have hlt := (@unpackMantissa Format.binary64 b.toBitVec).isLt
  split at h
  · split at h <;> cases h
  · next hfinite =>
    split at h
    · next hsubnormal =>
      split at h
      · cases h
      · cases h
        have hzero : (0#11).toNat = 0 := rfl
        rw [hsubnormal, hzero, if_pos rfl]
        refine ⟨rfl, ?_, ⟨by omega, by omega, .inl rfl⟩, by omega⟩
        congr 1
        rw [eq_comm, decide_eq_false_iff_not]
        omega
    · next hnormal =>
      have hpos : (@unpackExponent Format.binary64 b.toBitVec).toNat ≠ 0 :=
        fun hzero => hnormal (BitVec.eq_of_toNat_eq hzero)
      have hbelow : (@unpackExponent Format.binary64 b.toBitVec).toNat ≠ 2047 :=
        fun hall => hfinite (BitVec.eq_of_toNat_eq hall)
      have hrange := (@unpackExponent Format.binary64 b.toBitVec).isLt
      have hpower : 2 ^ Format.binary64.exponentBits = 2048 := rfl
      cases h
      rw [if_neg hpos, toNat_one_append]
      refine ⟨rfl, ?_, ⟨by omega, by omega, .inr (by omega)⟩, by omega⟩
      congr 1
      rw [← Bool.decide_and, decide_eq_decide]
      omega

theorem unpack_zero {b : UInt64} {s : Sign}
    (h : UnpackedFloat.unpack Format.binary64 b.toBitVec = .zero s) :
    s = (if b >>> 63 = 1 then .negative else .positive) ∧ (magnitude b).mantissa = 0 := by
  have hexponent := toNat_unpackExponent b.toBitVec
  have hmantissa := toNat_unpackMantissa b.toBitVec
  unfold UnpackedFloat.unpack at h
  dsimp only at h
  rw [unpackSign_eq] at h
  rw [magnitude_eq]
  split at h
  · split at h <;> cases h
  · split at h
    · next hzero =>
      split at h
      · next hnone =>
        have hfield : b.toNat / 2 ^ 52 % 2 ^ 11 = 0 := by
          rw [← UInt64.toNat_toBitVec, ← hexponent, hzero]
          rfl
        rw [hnone] at hmantissa
        cases h
        refine ⟨rfl, ?_⟩
        rw [if_pos hfield]
        exact hmantissa.symm
      · cases h
    · cases h

/-! ## Writing bits -/

/-- What the fields of a finite number say of its mantissa and its exponent. -/
def Writes (exponent mantissa : Nat) (m : Nat) (e : Int) : Prop :=
  exponent = 0 ∧ m = mantissa ∧ e = -1074 ∨
    0 < exponent ∧ exponent < 2047 ∧ m = 2 ^ 52 + mantissa ∧ e = (exponent : Int) - 1075

/-- Bits that neither say infinity nor zero are read as a finite number. -/
theorem unpack_of_fields {b : BitVec Format.binary64.numBits} {s : Sign}
    (hsign : unpackSign b = s.toBitVec) {m : Nat} {e : Int} (hm : 0 < m)
    (hfields : Writes (unpackExponent b).toNat (unpackMantissa b).toNat m e) :
    UnpackedFloat.unpack Format.binary64 b = .finite s m e hm := by
  have hbias : Format.binary64.exponentBias = 1023 := rfl
  have hfinite : unpackExponent b ≠ -1#_ := by
    intro h
    have hall : (unpackExponent b).toNat = 2047 := by
      rw [h]
      rfl
    unfold Writes at hfields
    omega
  unfold UnpackedFloat.unpack
  dsimp only
  rw [hsign, Sign.ofBitVec_toBitVec, hbias, if_neg hfinite]
  obtain ⟨hzero, hmantissa, hexponent⟩ | ⟨hpos, -, hmantissa, hexponent⟩ := hfields
  · have hsome : unpackMantissa b ≠ 0#_ := by
      intro h
      rw [h] at hmantissa
      exact hm.ne' hmantissa
    rw [if_pos (BitVec.eq_of_toNat_eq hzero), dif_neg hsome, finite.injEq]
    exact ⟨rfl, hmantissa.symm, by omega⟩
  · have hnormal : unpackExponent b ≠ 0#_ := by
      intro h
      rw [h] at hpos
      exact hpos.ne' rfl
    rw [if_neg hnormal, finite.injEq]
    exact ⟨rfl, (toNat_one_append _).trans hmantissa.symm, by omega⟩

theorem unpack_packComponents (s : Sign) (exponent : BitVec Format.binary64.exponentBits)
    (mantissa : BitVec Format.binary64.mantissaBitsWithoutImplicit) {m : Nat} {e : Int} (hm : 0 < m)
    (hfields : Writes exponent.toNat mantissa.toNat m e) :
    UnpackedFloat.unpack Format.binary64 (packComponents Format.binary64 s exponent mantissa) =
      .finite s m e hm := by
  have h := unpack_of_fields (unpackSign_packComponents s exponent mantissa) (e := e) hm
  rw [unpackExponent_packComponents, unpackMantissa_packComponents] at h
  exact h hfields

/-- A finite number is packed into the fields that say it. -/
theorem pack_of_fields (s : Sign) {m : Nat} {e : Int} (hm : 0 < m)
    (exponent : BitVec Format.binary64.exponentBits)
    (mantissa : BitVec Format.binary64.mantissaBitsWithoutImplicit)
    (hfields : Writes exponent.toNat mantissa.toNat m e) :
    UnpackedFloat.pack Format.binary64 (.finite s m e hm) =
      packComponents Format.binary64 s exponent mantissa := by
  have hbias : Format.binary64.exponentBias = 1023 := rfl
  have hbits : Format.binary64.mantissaBits = 53 := rfl
  have hpower : 2 ^ Format.binary64.exponentBits = 2048 := rfl
  have hlt : mantissa.toNat < 2 ^ 52 := mantissa.isLt
  unfold UnpackedFloat.pack
  dsimp only
  rw [hbias, hbits, hpower]
  obtain ⟨hzero, rfl, rfl⟩ | ⟨hpos, hbelow, rfl, rfl⟩ := hfields
  · have hlog : mantissa.toNat.log2 < 52 := (Nat.log2_lt hm.ne').2 hlt
    have hexponent : exponent = 0#11 := BitVec.eq_of_toNat_eq hzero
    rw [if_neg (by omega), if_neg (by omega), BitVec.ofNat_toNat, BitVec.setWidth_eq, hexponent]
  · have hlog : (2 ^ 52 + mantissa.toNat).log2 + 1 = 53 := by
      rw [(Nat.log2_eq_iff (by omega)).2 ⟨Nat.le_add_right _ _, by omega⟩]
    have hexponent : BitVec.ofNat 11 ((exponent.toNat : Int) - 1075 + (1023 : Nat) + (52 : Nat)).toNat =
        exponent := by
      apply BitVec.eq_of_toNat_eq
      rw [BitVec.toNat_ofNat]
      omega
    have hmantissa : BitVec.ofNat 52 (2 ^ 52 + mantissa.toNat) = mantissa := by
      apply BitVec.eq_of_toNat_eq
      rw [BitVec.toNat_ofNat]
      omega
    rw [if_neg (by omega), if_pos hlog, hexponent, hmantissa]

/-- There are fields that say a number of the format. -/
theorem Canonical.fields {m : Nat} {e : Int} (h : Canonical m e) (hmost : e ≤ 971) :
    ∃ (exponent : BitVec Format.binary64.exponentBits)
      (mantissa : BitVec Format.binary64.mantissaBitsWithoutImplicit),
      Writes exponent.toNat mantissa.toNat m e := by
  obtain ⟨hlt, hleast, hnormal⟩ := h
  have hmantissa : (BitVec.ofNat 52 m).toNat = m % 2 ^ 52 := BitVec.toNat_ofNat ..
  by_cases hlow : m < 2 ^ 52
  · refine ⟨0#11, BitVec.ofNat 52 m, .inl ⟨rfl, ?_, by omega⟩⟩
    exact (hmantissa.trans (Nat.mod_eq_of_lt hlow)).symm
  · refine ⟨BitVec.ofNat 11 (e + 1075).toNat, BitVec.ofNat 52 m, .inr ?_⟩
    have hexponent : (BitVec.ofNat 11 (e + 1075).toNat).toNat = (e + 1075).toNat := by
      rw [BitVec.toNat_ofNat]
      omega
    rw [hexponent]
    refine ⟨by omega, by omega, ?_, by omega⟩
    show m = 2 ^ 52 + (BitVec.ofNat 52 m).toNat
    omega

/-- A rounded number that is not too large is read back from its bits; one that is too large becomes
infinite. -/
theorem unpack_pack_finite (s : Sign) {m : Nat} {e : Int} (hm : 0 < m) (h : Canonical m e) :
    UnpackedFloat.unpack Format.binary64 (UnpackedFloat.pack Format.binary64 (.finite s m e hm)) =
      if e ≤ 971 then .finite s m e hm else .infinity s := by
  split
  · next hmost =>
    obtain ⟨exponent, mantissa, hfields⟩ := h.fields hmost
    rw [pack_of_fields s hm exponent mantissa hfields, unpack_packComponents s exponent mantissa hm hfields]
  · next hlarge =>
    have hbias : Format.binary64.exponentBias = 1023 := rfl
    have hbits : Format.binary64.mantissaBits = 53 := rfl
    have hpower : 2 ^ Format.binary64.exponentBits = 2048 := rfl
    unfold UnpackedFloat.pack
    dsimp only
    rw [hbias, hbits, hpower, if_pos (by omega)]
    cases s <;> rfl

/-- The bits of a number are those it is read from. -/
theorem pack_unpack {b : BitVec Format.binary64.numBits} (h : Format.binary64.Valid b) :
    UnpackedFloat.pack Format.binary64 (UnpackedFloat.unpack Format.binary64 b) = b := by
  have hfields := packComponents_fields b
  have hbias : Format.binary64.exponentBias = 1023 := rfl
  have hrange : (unpackExponent b).toNat < 2 ^ 11 := (unpackExponent b).isLt
  unfold UnpackedFloat.unpack
  dsimp only
  split
  · next hall =>
    split
    · next hnone => rwa [hall, hnone] at hfields
    · next hsome => exact (h.eq_packedNaN hall hsome).symm
  · next hfinite =>
    split
    · next hzero =>
      split
      · next hnone => rwa [hzero, hnone] at hfields
      · next hsome =>
        have hexponent : (unpackExponent b).toNat = 0 := congrArg BitVec.toNat hzero
        refine (pack_of_fields _ _ _ _ (.inl ⟨hexponent, rfl, ?_⟩)).trans hfields
        omega
    · next hnormal =>
      have hpos : (unpackExponent b).toNat ≠ 0 := fun h => hnormal (BitVec.eq_of_toNat_eq h)
      have hbelow : (unpackExponent b).toNat ≠ 2047 := fun h => hfinite (BitVec.eq_of_toNat_eq h)
      refine (pack_of_fields _ _ _ _ (.inr ⟨by omega, by omega, toNat_one_append _, ?_⟩)).trans hfields
      omega

/-- A floating number is what packing gives of what it is read as. -/
theorem ofModel_pack_unpack (x : Float) : Float.ofModel (Float.Model.pack x.toModel.unpack) = x := by
  obtain ⟨⟨bits, hvalid⟩⟩ := x
  have hbits : UInt64.ofBitVec (UnpackedFloat.pack Format.binary64
      (UnpackedFloat.unpack Format.binary64 bits.toBitVec)) = bits := by
    rw [pack_unpack hvalid]
  unfold Float.Model.pack Float.Model.unpack
  congr 2

end StoryRules.Amount
