import PostfixCalculator.Proofs.Equality

/-!
# Comparison of doubles

Doubles compare as equal exactly if they are numbers with the same exact value, where zero has no
sign. What is not a number differs from itself, whatever its bits are. So two doubles have the
same canonical bits exactly if they compare as equal or neither is a number.
-/
namespace PostfixCalculator.Number

open Float.Model (Format UnpackedFloat)
open Float.Model.UnpackedFloat

variable {x y : Float}

def isNegative : Sign → Bool
  | .negative => true
  | .positive => false

/-- The exact value of a double in its parts. -/
def Exact.ofParts : UnpackedFloat → Exact
  | .notANumber => .notNumber
  | .infinity sign => .infinite (isNegative sign)
  | .zero sign => .finite (isNegative sign) 0 (-1074)
  | .finite sign m e _ => .finite (isNegative sign) m e

lemma isNegative_unpackSign (b : BitVec Format.binary64.numBits) :
    isNegative (Sign.ofBitVec (unpackSign b)) = (b.toNat / 2 ^ 63 == 1) := by
  have hlt : b.toNat < 2 ^ 64 := b.isLt
  have hbit : (unpackSign b).toNat = b.toNat / 2 ^ 63 := by
    simp only [unpackSign, BitVec.toNat_cast, BitVec.extractLsb_toNat, Nat.shiftRight_eq_div_pow]
    norm_num
    omega
  by_cases hsign : unpackSign b = 0#1
  · rw [Sign.ofBitVec, if_pos hsign]
    rw [hsign] at hbit
    rw [← hbit]
    rfl
  · rw [Sign.ofBitVec, if_neg hsign]
    have hone : (unpackSign b).toNat = 1 := by
      have hne : (unpackSign b).toNat ≠ 0 := fun h => hsign (BitVec.eq_of_toNat_eq h)
      omega
    rw [← hbit, hone]
    rfl

/-- A pattern of bits is taken apart into the sign, the mantissa and the exponent of its exact
value. -/
theorem ofParts_unpack (b : BitVec Format.binary64.numBits) :
    Exact.ofParts (unpack Format.binary64 b) = exactOfBits b.toNat := by
  have hfield := toNat_unpackExponent b
  have hfraction := toNat_unpackMantissa b
  have hsame : ∀ {k : ℕ} (v w : BitVec k), v = w ↔ (v.toNat == w.toNat) = true := by
    intro k v w
    rw [beq_iff_eq, BitVec.toNat_inj]
  have hones : unpackExponent b = -BitVec.ofNat _ 1 ↔
      (b.toNat % 2 ^ 63 / 2 ^ 52 == 2047) = true := hfield ▸ hsame _ _
  have hleast : unpackExponent b = BitVec.ofNat _ 0 ↔
      (b.toNat % 2 ^ 63 / 2 ^ 52 == 0) = true := hfield ▸ hsame _ _
  have hnone : unpackMantissa b = BitVec.ofNat _ 0 ↔
      (b.toNat % 2 ^ 63 % 2 ^ 52 == 0) = true := hfraction ▸ hsame _ _
  unfold unpack exactOfBits
  rw [magnitudeBits_eq]
  dsimp only [Nat.pow_eq]
  rw [← isNegative_unpackSign]
  simp only [hones, hleast, hnone]
  split_ifs with hlast hinfinite hfirst hzero
  · rfl
  · rfl
  · rw [Exact.ofParts, beq_iff_eq.1 hzero]
  · rw [Exact.ofParts, hfield, hfraction, beq_iff_eq.1 hfirst]
    rfl
  · have hlt : (unpackMantissa b).toNat < 2 ^ 52 := (unpackMantissa b).isLt
    have hmantissa : (1#1 ++ unpackMantissa b).toNat = 2 ^ 52 + (unpackMantissa b).toNat := by
      rw [BitVec.toNat_append, ← Nat.shiftLeft_add_eq_or_of_lt hlt]
      rfl
    rw [Exact.ofParts, hmantissa, hfield, hfraction]
    rfl

@[simp] lemma Exact.unsignedZero_notNumber : Exact.notNumber.unsignedZero = .notNumber := rfl

@[simp] lemma Exact.unsignedZero_infinite (negative : Bool) :
    (Exact.infinite negative).unsignedZero = .infinite negative := rfl

@[simp] lemma Exact.unsignedZero_zero (negative : Bool) (e : ℤ) :
    (Exact.finite negative 0 e).unsignedZero = .finite false 0 e := rfl

@[simp] lemma Exact.unsignedZero_of_pos {negative : Bool} {m : ℕ} {e : ℤ} (h : 0 < m) :
    (Exact.finite negative m e).unsignedZero = .finite negative m e := by
  cases m with
  | zero => exact absurd h (lt_irrefl 0)
  | succ m => rfl

lemma Exact.eq_notNumber_of_unsignedZero {v : Exact} (h : v.unsignedZero = .notNumber) :
    v = .notNumber := by
  unfold unsignedZero at h
  split at h
  · cases h
  · exact h

lemma compare_signs_iff (sign sign' : Sign) :
    compare sign sign' = .eq ↔ isNegative sign = isNegative sign' := by
  cases sign <;> cases sign' <;> decide

/-- Parts compare as equal if they are those of one number, where the sign of zero does not
count. -/
lemma beq_parts (u v : UnpackedFloat) : u.beq v = true ↔
    Exact.ofParts u ≠ .notNumber ∧
      (Exact.ofParts u).unsignedZero = (Exact.ofParts v).unsignedZero := by
  rw [UnpackedFloat.beq, beq_iff_eq]
  -- between parts of different kinds the sign of the greater one decides
  cases u with
  | notANumber => simp [UnpackedFloat.compare, Exact.ofParts]
  | infinity sign =>
    cases v with
    | notANumber => simp [UnpackedFloat.compare, Exact.ofParts]
    | infinity sign' => simp [UnpackedFloat.compare, Exact.ofParts, compare_signs_iff]
    | zero sign' => cases sign <;> simp [UnpackedFloat.compare, Exact.ofParts]
    | finite sign' m' e' hm' => cases sign <;> simp [UnpackedFloat.compare, Exact.ofParts, hm']
  | zero sign =>
    cases v with
    | notANumber => simp [UnpackedFloat.compare, Exact.ofParts]
    | infinity sign' => cases sign' <;> simp [UnpackedFloat.compare, Exact.ofParts]
    | zero sign' => simp [UnpackedFloat.compare, Exact.ofParts]
    | finite sign' m' e' hm' =>
      cases sign' <;> simp [UnpackedFloat.compare, Exact.ofParts, hm', hm'.ne]
  | finite sign m e hm =>
    cases v with
    | notANumber => simp [UnpackedFloat.compare, Exact.ofParts, hm]
    | infinity sign' => cases sign' <;> simp [UnpackedFloat.compare, Exact.ofParts, hm]
    | zero sign' => cases sign <;> simp [UnpackedFloat.compare, Exact.ofParts, hm, hm.ne']
    | finite sign' m' e' hm' =>
      cases sign <;> cases sign' <;>
        simp [UnpackedFloat.compare, Exact.ofParts, hm, hm', isNegative, and_comm]

/-- Doubles compare as equal if they are numbers with the same exact value but for the sign of
zero. -/
theorem beq_iff_exact : (x == y) = true ↔
    exact x ≠ .notNumber ∧ (exact x).unsignedZero = (exact y).unsignedZero := by
  have hparts := beq_parts x.toModel.unpack y.toModel.unpack
  rw [Float.Model.unpack, Float.Model.unpack, ofParts_unpack, ofParts_unpack] at hparts
  exact hparts

lemma eq_notANumber_iff {u : UnpackedFloat} : u = .notANumber ↔ Exact.ofParts u = .notNumber := by
  cases u <;> simp [Exact.ofParts]

theorem isNaN_iff_exact : x.isNaN = true ↔ exact x = .notNumber := by
  have hparts : x.toModel.unpack.isNaN = true ↔ x.toModel.unpack = .notANumber := by
    cases x.toModel.unpack <;> simp [UnpackedFloat.isNaN]
  rw [eq_notANumber_iff, Float.Model.unpack, ofParts_unpack] at hparts
  exact hparts

/-- There is one double that is not a number, and all its patterns of bits are read as it. -/
theorem ofBits_of_notNumber {word : UInt64} (h : exactOfBits word.toNat = .notNumber) :
    Float.ofBits word = notNumber := by
  have hparts : unpack Format.binary64 word.toBitVec = .notANumber :=
    eq_notANumber_iff.2 ((ofParts_unpack word.toBitVec).trans h)
  rw [Float.ofBits, Float.Model.ofBits, hparts]
  rfl

/-- The canonical bits agree for doubles that compare as equal, and for all that are not
numbers. -/
theorem canonicalBits_eq_iff_beq : canonicalBits x = canonicalBits y ↔
    (x == y) = true ∨ x.isNaN = true ∧ y.isNaN = true := by
  have hbits : canonicalBits x = canonicalBits y ↔
      (exact x).unsignedZero = (exact y).unsignedZero := by
    constructor
    · intro h
      rw [← exactOfBits_canonicalBits, h, exactOfBits_canonicalBits]
    · intro h
      exact canonicalBits_eq_iff.2 (eq_or_opposite_of_unsignedZero h)
  rw [hbits, beq_iff_exact, isNaN_iff_exact, isNaN_iff_exact]
  constructor
  · intro h
    by_cases hx : exact x = .notNumber
    · rw [hx] at h
      exact .inr ⟨hx, Exact.eq_notNumber_of_unsignedZero h.symm⟩
    · exact .inl ⟨hx, h⟩
  · rintro (⟨-, h⟩ | ⟨hx, hy⟩)
    · exact h
    · rw [hx, hy]

end PostfixCalculator.Number
