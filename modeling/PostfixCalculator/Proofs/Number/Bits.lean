import PostfixCalculator.Number.Binary
import Mathlib

/-!
# Doubles and their bits

A double is a pattern of bits in which what is not a number has one form only. Its exact
value therefore gives the double back: sign, mantissa and exponent of a finite one, the sign
of an infinite one.
-/
namespace PostfixCalculator.Number

open Float.Model (Format)
open Float.Model.UnpackedFloat

/-- A mantissa and an exponent as a double holds them: the mantissa has 53 bits, and the
first of them is set unless the exponent is the least one. -/
structure Normalized (mantissa : ℕ) (exponent : ℤ) : Prop where
  bits : mantissa < 2 ^ 53
  least : -1074 ≤ exponent
  greatest : exponent ≤ 971
  leading : exponent = -1074 ∨ 2 ^ 52 ≤ mantissa

def packedBits (mantissa : ℕ) (exponent : ℤ) : ℕ := (exponent + 1074).toNat * 2 ^ 52 + mantissa

lemma magnitudeBits_eq (bits : ℕ) : magnitudeBits bits = bits % 2 ^ 63 := rfl

lemma infinityBits_eq : infinityBits = 2047 * 2 ^ 52 := rfl

/-- A double is given by its sign and its bits below the sign. -/
lemma ofSignedBits_magnitude (x : Float) :
    ofSignedBits (x.toBits.toNat / 2 ^ 63 == 1) (magnitudeBits x.toBits.toNat) = x := by
  have hlt : x.toBits.toNat < 2 ^ 64 := x.toBits.toNat_lt
  have hbits : (if (x.toBits.toNat / 2 ^ 63 == 1) = true then
      magnitudeBits x.toBits.toNat + 2 ^ 63 else magnitudeBits x.toBits.toNat) =
      x.toBits.toNat := by
    simp only [magnitudeBits_eq, beq_iff_eq]
    split_ifs <;> omega
  rw [ofSignedBits, Nat.pow_eq, hbits, UInt64.ofNat_toNat, Float.ofBits_toBits]

/-- A finite double is the one that its sign, mantissa and exponent give. -/
theorem exact_finite {x : Float} {negative : Bool} {m : ℕ} {e : ℤ}
    (h : exact x = .finite negative m e) :
    Normalized m e ∧ ofSignedBits negative (packedBits m e) = x := by
  have hx := ofSignedBits_magnitude x
  have hlt : magnitudeBits x.toBits.toNat < 2 ^ 63 := Nat.mod_lt _ (by norm_num)
  unfold exact exactOfBits at h
  dsimp only [Nat.pow_eq] at h
  generalize magnitudeBits x.toBits.toNat = bits at *
  generalize (x.toBits.toNat / 2 ^ 63 == 1) = sign at *
  split_ifs at h with hones hzero hleast
  · simp only [Exact.finite.injEq] at h
    obtain ⟨rfl, rfl, rfl⟩ := h
    rw [beq_iff_eq] at hleast
    refine ⟨⟨by omega, le_rfl, by norm_num, .inl rfl⟩, ?_⟩
    rw [← hx]
    congr 1
    unfold packedBits
    omega
  · simp only [Exact.finite.injEq] at h
    obtain ⟨rfl, rfl, rfl⟩ := h
    rw [beq_iff_eq] at hones hleast
    refine ⟨⟨by omega, by omega, by omega, .inr (by omega)⟩, ?_⟩
    rw [← hx]
    congr 1
    unfold packedBits
    omega

theorem exact_infinite {x : Float} {negative : Bool} (h : exact x = .infinite negative) :
    infinity negative = x := by
  have hx := ofSignedBits_magnitude x
  unfold exact exactOfBits at h
  dsimp only [Nat.pow_eq] at h
  generalize magnitudeBits x.toBits.toNat = bits at *
  generalize (x.toBits.toNat / 2 ^ 63 == 1) = sign at *
  split_ifs at h with hones hzero
  simp only [Exact.infinite.injEq] at h
  subst h
  rw [beq_iff_eq] at hones hzero
  rw [infinity, ← hx]
  congr 1
  rw [infinityBits_eq]
  omega

lemma toNat_unpackExponent (b : BitVec Format.binary64.numBits) :
    (unpackExponent b).toNat = b.toNat % 2 ^ 63 / 2 ^ 52 := by
  simp only [unpackExponent, BitVec.toNat_cast, BitVec.extractLsb_toNat, Nat.shiftRight_eq_div_pow]
  norm_num
  omega

lemma toNat_unpackMantissa (b : BitVec Format.binary64.numBits) :
    (unpackMantissa b).toNat = b.toNat % 2 ^ 63 % 2 ^ 52 := by
  simp only [unpackMantissa, BitVec.toNat_cast, BitVec.extractLsb_toNat, Nat.shiftRight_zero]
  norm_num
  

/-- There is one double that is not a number. -/
theorem exact_notNumber {x : Float} (h : exact x = .notNumber) : notNumber = x := by
  have hvalid := x.toModel.valid
  have hbits : x.toModel.toBits.toBitVec.toNat = x.toBits.toNat := rfl
  unfold exact exactOfBits at h
  rw [magnitudeBits_eq] at h
  dsimp only [Nat.pow_eq] at h
  split_ifs at h with hones hzero
  rw [beq_iff_eq] at hones hzero
  have hnan : x.toModel.toBits.toBitVec = packedNaN Format.binary64 := by
    apply hvalid.eq_packedNaN
    · apply BitVec.eq_of_toNat_eq
      rw [toNat_unpackExponent, hbits, hones]
      rfl
    · intro h0
      apply hzero
      rw [← hbits, ← toNat_unpackMantissa, h0]
      rfl
  have hword : x.toBits = UInt64.ofNat (infinityBits + Nat.pow 2 51) := by
    apply UInt64.toBitVec_inj.1
    exact hnan
  rw [← Float.ofBits_toBits x, hword]
  rfl

end PostfixCalculator.Number
