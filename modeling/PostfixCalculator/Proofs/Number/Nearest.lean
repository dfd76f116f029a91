import PostfixCalculator.Proofs.Number.Bits

/-!
# The nearest double

`nearestBits` is determined by two facts about a quotient: the place of its last binary
digit, and the whole number of units of that place it is rounded to.
-/
namespace PostfixCalculator.Number

lemma packedBits_lt {m : ℕ} {e : ℤ} (h : Normalized m e) : packedBits m e < infinityBits := by
  have hm := h.bits
  have he := h.greatest
  rw [packedBits, infinityBits_eq]
  omega

lemma packedBits_carry {e : ℤ} (he : -1074 < e) :
    packedBits (2 ^ 53) (e - 1) = packedBits (2 ^ 52) e := by
  unfold packedBits
  omega

/-- The nearest whole number is the only one at most half away, ties being even. -/
lemma roundQuotient_eq {num den r : ℕ} (hden : 0 < den)
    (hlow : 2 * r * den ≤ 2 * num + den) (hhigh : 2 * num ≤ 2 * r * den + den)
    (hodd : r % 2 = 1 → 2 * r * den < 2 * num + den ∧ 2 * num < 2 * r * den + den) :
    roundQuotient num den = r := by
  have hdiv := Nat.div_add_mod num den
  have hmod := Nat.mod_lt num hden
  unfold roundQuotient
  generalize num / den = floor at *
  generalize num % den = rest at *
  subst num
  -- the bounds leave the floor and its successor
  have hlo : floor ≤ r := by
    by_contra h
    have : (r + 1) * den ≤ floor * den := Nat.mul_le_mul_right _ (by omega)
    nlinarith
  have hhi : r ≤ floor + 1 := by
    by_contra h
    have : (floor + 2) * den ≤ r * den := Nat.mul_le_mul_right _ (by omega)
    nlinarith
  have hr : 2 * r * den = 2 * (den * r) := by ring
  rw [hr] at hlow hhigh hodd
  simp only [Bool.or_eq_true, decide_eq_true_eq, Bool.and_eq_true, beq_iff_eq, gt_iff_lt]
  obtain h | h : r = floor ∨ r = floor + 1 := by omega
  · subst h
    rw [if_neg]
    omega
  · subst h
    rw [Nat.mul_succ] at hlow hhigh hodd
    rw [if_pos]
    omega

/-- The place of the last digit of a positive number with 53 binary digits, or the least
place there is. -/
structure IsLastPlace (q : ℚ) (place : ℤ) : Prop where
  least : -1074 ≤ place
  below : q < 2 ^ (place + 53)
  leading : place = -1074 ∨ (2 : ℚ) ^ (place + 52) ≤ q

lemma IsLastPlace.unique {q : ℚ} {p p' : ℤ} (h : IsLastPlace q p) (h' : IsLastPlace q p') :
    p = p' := by
  have step : ∀ {a b : ℤ}, IsLastPlace q a → IsLastPlace q b → a ≤ b := by
    intro a b ha hb
    rcases ha.leading with hmin | hlead
    · exact hmin ▸ hb.least
    · have := (zpow_lt_zpow_iff_right₀ (by norm_num : (1 : ℚ) < 2)).1 (hlead.trans_lt hb.below)
      omega
  exact le_antisymm (step h h') (step h' h)

lemma two_zpow_pos (k : ℤ) : (0 : ℚ) < 2 ^ k := zpow_pos (by norm_num) k

lemma lt_zpow_iff {q : ℚ} (e : ℤ) (k : ℕ) : q < 2 ^ (e + k) ↔ q / 2 ^ e < 2 ^ k := by
  rw [zpow_add₀ two_ne_zero, mul_comm, ← div_lt_iff₀ (two_zpow_pos e), zpow_natCast]

lemma zpow_le_iff {q : ℚ} (e : ℤ) (k : ℕ) : (2 : ℚ) ^ (e + k) ≤ q ↔ 2 ^ k ≤ q / 2 ^ e := by
  rw [← not_lt, lt_zpow_iff, not_lt]

/-- A quotient lies within a factor of two of the power of two that its logarithms give. -/
lemma quotient_bounds {num den : ℕ} (hnum : 0 < num) (hden : 0 < den) :
    (2 : ℚ) ^ ((num.log2 : ℤ) - den.log2 - 1) < num / den ∧
      (num : ℚ) / den < 2 ^ ((num.log2 : ℤ) - den.log2 + 1) := by
  have hn₁ : (2 : ℚ) ^ (num.log2 : ℤ) ≤ num := by exact_mod_cast Nat.log2_self_le hnum.ne'
  have hn₂ : (num : ℚ) < 2 ^ ((num.log2 : ℤ) + 1) := by exact_mod_cast Nat.lt_log2_self (n := num)
  have hd₁ : (2 : ℚ) ^ (den.log2 : ℤ) ≤ den := by exact_mod_cast Nat.log2_self_le hden.ne'
  have hd₂ : (den : ℚ) < 2 ^ ((den.log2 : ℤ) + 1) := by exact_mod_cast Nat.lt_log2_self (n := den)
  have hden' : (0 : ℚ) < den := by exact_mod_cast hden
  constructor
  · rw [lt_div_iff₀ hden']
    calc (2 : ℚ) ^ ((num.log2 : ℤ) - den.log2 - 1) * den
        < 2 ^ ((num.log2 : ℤ) - den.log2 - 1) * 2 ^ ((den.log2 : ℤ) + 1) :=
          mul_lt_mul_of_pos_left hd₂ (two_zpow_pos _)
      _ = 2 ^ (num.log2 : ℤ) := by rw [← zpow_add₀ two_ne_zero]; congr 1; ring
      _ ≤ num := hn₁
  · rw [div_lt_iff₀ hden']
    calc (num : ℚ) < 2 ^ ((num.log2 : ℤ) + 1) := hn₂
      _ = 2 ^ ((num.log2 : ℤ) - den.log2 + 1) * 2 ^ (den.log2 : ℤ) := by
          rw [← zpow_add₀ two_ne_zero]; congr 1; ring
      _ ≤ 2 ^ ((num.log2 : ℤ) - den.log2 + 1) * den :=
          mul_le_mul_of_nonneg_left hd₁ (two_zpow_pos _).le

lemma zpow_eq_div (b : ℚ) (k : ℤ) : b ^ k = b ^ k.toNat / b ^ (-k).toNat := by
  rcases le_total 0 k with h | h
  · rw [Int.toNat_of_nonpos (by omega : -k ≤ 0), pow_zero, div_one, ← zpow_natCast,
      Int.toNat_of_nonneg h]
  · rw [Int.toNat_of_nonpos h, pow_zero, one_div, ← zpow_natCast,
      Int.toNat_of_nonneg (by omega), zpow_neg, inv_inv]

lemma quotient_div_zpow (num den : ℕ) (place : ℤ) :
    ((num * 2 ^ (-place).toNat : ℕ) : ℚ) / (den * 2 ^ place.toNat : ℕ) =
      (num : ℚ) / den / 2 ^ place := by
  rw [zpow_eq_div 2 place]
  push_cast
  rw [div_div_div_eq]

lemma le_quotient_iff {num den : ℕ} (hden : 0 < den) (place : ℤ) :
    (2 : ℚ) ^ (place + 53) ≤ num / den ↔
      2 ^ 53 * (den * 2 ^ place.toNat) ≤ num * 2 ^ (-place).toNat := by
  have hpos : (0 : ℚ) < (den * 2 ^ place.toNat : ℕ) := by exact_mod_cast by positivity
  rw [zpow_add₀ two_ne_zero, mul_comm, ← le_div_iff₀ (two_zpow_pos place), ← quotient_div_zpow,
    le_div_iff₀ hpos]
  exact_mod_cast Iff.rfl

lemma isLastPlace_lastPlace {num den : ℕ} (hnum : 0 < num) (hden : 0 < den) :
    IsLastPlace (num / den) (lastPlace num den) := by
  obtain ⟨hlow, hhigh⟩ := quotient_bounds hnum hden
  unfold lastPlace
  extract_lets guess large
  have hlarge : large = true ↔ (2 : ℚ) ^ (guess + 53) ≤ num / den := by
    rw [le_quotient_iff hden]
    by_cases hg : guess < 0
    · simp [large, hg, Int.toNat_of_nonpos hg.le]
    · simp [large, hg, Int.toNat_of_nonpos (by omega : -guess ≤ 0)]
  have hguess : guess = (num.log2 : ℤ) - den.log2 - 53 := rfl
  rw [show (num.log2 : ℤ) - den.log2 - 1 = guess + 52 by omega] at hlow
  rw [show (num.log2 : ℤ) - den.log2 + 1 = guess + 54 by omega] at hhigh
  -- the place before the least one is taken into account
  obtain ⟨place, hplace, hbelow, hleading⟩ : ∃ place : ℤ,
      (if large then guess + 1 else guess) = place ∧ (num : ℚ) / den < 2 ^ (place + 53) ∧
        (2 : ℚ) ^ (place + 52) ≤ num / den := by
    by_cases hl : large = true
    · refine ⟨guess + 1, by simp [hl], ?_, ?_⟩
      · rwa [show guess + 1 + 53 = guess + 54 by ring]
      · rw [show guess + 1 + 52 = guess + 53 by ring]
        exact hlarge.1 hl
    · exact ⟨guess, by simp [hl], not_le.1 fun h => hl (hlarge.2 h), hlow.le⟩
  rw [hplace]
  refine ⟨le_max_right _ _, hbelow.trans_le ?_, ?_⟩
  · exact zpow_le_zpow_right₀ (by norm_num) (by omega)
  · rcases le_total place (-1074) with h | h
    · exact .inl (max_eq_right h)
    · exact .inr (by rwa [max_eq_left h])

/-- A number is rounded to `r` if it is less than a half away, or a half and `r` is even. -/
lemma roundQuotient_of_near {num den r : ℕ} (hden : 0 < den)
    (hlow : (r : ℚ) - 1 / 2 ≤ num / den) (hhigh : (num : ℚ) / den ≤ r + 1 / 2)
    (hodd : r % 2 = 1 → (r : ℚ) - 1 / 2 < num / den ∧ (num : ℚ) / den < r + 1 / 2) :
    roundQuotient num den = r := by
  have hpos : (0 : ℚ) < den := by exact_mod_cast hden
  rw [le_div_iff₀ hpos] at hlow
  rw [div_le_iff₀ hpos] at hhigh
  rw [lt_div_iff₀ hpos, div_lt_iff₀ hpos] at hodd
  apply roundQuotient_eq hden
  · have : (2 * r * den : ℚ) ≤ 2 * num + den := by linarith
    exact_mod_cast this
  · have : (2 * num : ℚ) ≤ 2 * r * den + den := by linarith
    exact_mod_cast this
  · intro h
    obtain ⟨h₁, h₂⟩ := hodd h
    have h₁' : (2 * r * den : ℚ) < 2 * num + den := by linarith
    have h₂' : (2 * num : ℚ) < 2 * r * den + den := by linarith
    exact ⟨by exact_mod_cast h₁', by exact_mod_cast h₂'⟩

/-- The bits of a quotient whose last place is known and which is rounded to `r` there. -/
lemma nearestBits_eq {num den r : ℕ} {place : ℤ} (hnum : 0 < num) (hden : 0 < den)
    (hplace : IsLastPlace (num / den) place)
    (hlow : (r : ℚ) - 1 / 2 ≤ num / den / 2 ^ place)
    (hhigh : (num : ℚ) / den / 2 ^ place ≤ r + 1 / 2)
    (hodd : r % 2 = 1 →
      (r : ℚ) - 1 / 2 < num / den / 2 ^ place ∧ (num : ℚ) / den / 2 ^ place < r + 1 / 2)
    (hfits : packedBits r place ≤ infinityBits) :
    nearestBits num den = packedBits r place := by
  rw [← quotient_div_zpow] at hlow hhigh hodd
  have hround := roundQuotient_of_near (by positivity) hlow hhigh hodd
  unfold nearestBits
  rw [if_neg (by simpa using hnum.ne'), (isLastPlace_lastPlace hnum hden).unique hplace]
  dsimp only [Nat.pow_eq]
  have hbranch : (if place < 0 then roundQuotient (num * 2 ^ (-place).toNat) den
      else roundQuotient num (den * 2 ^ place.toNat)) = r := by
    rw [← hround]
    by_cases hp : place < 0
    · rw [if_pos hp, Int.toNat_of_nonpos hp.le, pow_zero, mul_one]
    · rw [if_neg hp, Int.toNat_of_nonpos (by omega : -place ≤ 0), pow_zero, mul_one]
  rw [hbranch]
  exact min_eq_left hfits

end PostfixCalculator.Number
