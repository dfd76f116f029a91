import PostfixCalculator.Number.Decimal
import PostfixCalculator.Proofs.Number.Nearest

/-!
# The shortest decimal of a double

The numbers that are rounded to one double form an interval. Every decimal in it is read as
that double, and the search for the shortest one always ends inside.
-/
namespace PostfixCalculator.Number

/-- The rational numbers that an interval stands for. -/
def Interval.Contains (i : Interval) (q : ℚ) : Prop :=
  i.low * 2 ^ i.unit ≤ q ∧ q ≤ i.high * 2 ^ i.unit ∧
    (i.closed = true ∨ i.low * 2 ^ i.unit < q ∧ q < i.high * 2 ^ i.unit)

/-- The lower bound is half a unit below the value, or a quarter below a power of two. -/
lemma Interval.low_eq {m : ℕ} (e : ℤ) (hm : 0 < m) :
    ((Interval.of m e).low : ℚ) =
      if m = 2 ^ 52 ∧ -1074 < e then 4 * (m : ℚ) - 1 else 4 * m - 2 := by
  simp only [Interval.of, Nat.pow_eq, Bool.and_eq_true, beq_iff_eq, decide_eq_true_eq, gt_iff_lt]
  split_ifs
  · rw [Nat.cast_sub (by omega)]
    push_cast
    rfl
  · rw [Nat.cast_sub (by omega)]
    push_cast
    rfl

lemma Interval.Contains.scaled {m : ℕ} {e : ℤ} {q : ℚ} (hm : 0 < m)
    (h : (Interval.of m e).Contains q) :
    (m : ℚ) - 1 / 2 ≤ q / 2 ^ e ∧ q / 2 ^ e ≤ m + 1 / 2 ∧
      (m = 2 ^ 52 → -1074 < e → (m : ℚ) - 1 / 4 ≤ q / 2 ^ e) ∧
      (m % 2 = 1 → (m : ℚ) - 1 / 2 < q / 2 ^ e ∧ q / 2 ^ e < m + 1 / 2) := by
  obtain ⟨hlow, hhigh, hends⟩ := h
  have hpos := two_zpow_pos e
  have hunit : ∀ x : ℚ, x * 2 ^ (Interval.of m e).unit = x / 4 * 2 ^ e := by
    intro x
    rw [Interval.of, zpow_sub₀ two_ne_zero]
    ring
  have hhigh_eq : ((Interval.of m e).high : ℚ) / 4 = m + 1 / 2 := by
    rw [Interval.of]
    push_cast
    ring
  simp only [hunit, hhigh_eq, ← le_div_iff₀ hpos, ← div_le_iff₀ hpos, ← lt_div_iff₀ hpos,
    ← div_lt_iff₀ hpos] at hlow hhigh hends
  have hlow_ge : (m : ℚ) - 1 / 2 ≤ (Interval.of m e).low / 4 := by
    rw [Interval.low_eq e hm]
    split_ifs <;> linarith
  refine ⟨hlow_ge.trans hlow, hhigh, ?_, ?_⟩
  · intro hm' he
    rw [Interval.low_eq e hm, if_pos ⟨hm', he⟩] at hlow
    linarith
  · intro hodd
    have hopen : (Interval.of m e).closed = false := by simp [Interval.of, hodd]
    obtain ⟨h₁, h₂⟩ := hends.resolve_left (by simp [hopen])
    exact ⟨hlow_ge.trans_lt h₁, h₂⟩

/-- Every number in the interval of a double is rounded to that double. -/
theorem nearestBits_of_contains {m num den : ℕ} {e : ℤ} (h : Normalized m e) (hm : 0 < m)
    (hnum : 0 < num) (hden : 0 < den) (hin : (Interval.of m e).Contains (num / den)) :
    nearestBits num den = packedBits m e := by
  obtain ⟨hlow, hhigh, hbinade, hodd⟩ := hin.scaled hm
  have hbits : (m : ℚ) + 1 ≤ 2 ^ 53 := by exact_mod_cast h.bits
  by_cases hcarry : m = 2 ^ 52 ∧ -1074 < e ∧ (num : ℚ) / den / 2 ^ e < 2 ^ 52
  · -- just below a power of two the digits are those of the binade below
    obtain ⟨rfl, he, htop⟩ := hcarry
    have hquarter := hbinade rfl he
    have hscale : (num : ℚ) / den / 2 ^ (e - 1) = 2 * (num / den / 2 ^ e) := by
      rw [zpow_sub₀ two_ne_zero, zpow_one, div_div_eq_mul_div, mul_comm, mul_div_assoc]
    have hplace : IsLastPlace ((num : ℚ) / den) (e - 1) := by
      refine ⟨by omega, (lt_zpow_iff (e - 1) 53).2 ?_, .inr ((zpow_le_iff (e - 1) 52).2 ?_)⟩
      · rw [hscale]
        linarith
      · rw [hscale]
        norm_num at hquarter ⊢
        linarith
    rw [← packedBits_carry he]
    push_cast at hquarter
    refine nearestBits_eq hnum hden hplace ?_ ?_ (by norm_num) ?_
    · rw [hscale]
      push_cast
      linarith
    · rw [hscale]
      push_cast
      linarith
    · exact (packedBits_carry he).trans_le (packedBits_lt h).le
  · have hplace : IsLastPlace ((num : ℚ) / den) e := by
      refine ⟨h.least, (lt_zpow_iff e 53).2 (by linarith), ?_⟩
      rcases eq_or_lt_of_le h.least with he | he
      · exact .inl he.symm
      · refine .inr ((zpow_le_iff e 52).2 (not_lt.1 fun hsmall => ?_))
        have hm' : 2 ^ 52 < m := by
          have := h.leading.resolve_left he.ne'
          have : m ≠ 2 ^ 52 := fun heq => hcarry ⟨heq, he, hsmall⟩
          omega
        have : (2 : ℚ) ^ 52 + 1 ≤ m := by exact_mod_cast hm'
        linarith
    exact nearestBits_eq hnum hden hplace hlow hhigh hodd (packedBits_lt h).le

def Decimal.toRat (d : Decimal) : ℚ := d.digits * 10 ^ d.exponent

lemma ten_zpow_pos (k : ℤ) : (0 : ℚ) < 10 ^ k := zpow_pos (by norm_num) k

lemma commonUnit_le_iff (a : ℕ) (p : ℤ) (b : ℕ) (q : ℤ) :
    (commonUnit a p b q).1 ≤ (commonUnit a p b q).2 ↔ (a : ℚ) * 2 ^ p ≤ b * 10 ^ q := by
  rw [zpow_eq_div 2 p, zpow_eq_div 10 q, mul_div_assoc', mul_div_assoc',
    div_le_div_iff₀ (by positivity) (by positivity), commonUnit]
  exact_mod_cast Iff.rfl

lemma commonUnit_lt_iff (a : ℕ) (p : ℤ) (b : ℕ) (q : ℤ) :
    (commonUnit a p b q).1 < (commonUnit a p b q).2 ↔ (a : ℚ) * 2 ^ p < b * 10 ^ q := by
  rw [zpow_eq_div 2 p, zpow_eq_div 10 q, mul_div_assoc', mul_div_assoc',
    div_lt_div_iff₀ (by positivity) (by positivity), commonUnit]
  exact_mod_cast Iff.rfl

/-- Membership is decided in whole numbers and holds of the numbers of the interval. -/
theorem Interval.has_iff (i : Interval) (d : Decimal) :
    i.has d = true ↔ i.Contains d.toRat := by
  have hlow := commonUnit_le_iff i.low i.unit d.digits d.exponent
  have hlow' := commonUnit_lt_iff i.low i.unit d.digits d.exponent
  have hhigh := (commonUnit_lt_iff i.high i.unit d.digits d.exponent).not
  have hhigh' := (commonUnit_le_iff i.high i.unit d.digits d.exponent).not
  simp only [not_le, not_lt] at hhigh hhigh'
  have hx : (commonUnit i.high i.unit d.digits d.exponent).2 =
      (commonUnit i.low i.unit d.digits d.exponent).2 := rfl
  rw [hx] at hhigh hhigh'
  unfold has Contains Decimal.toRat
  cases i.closed
  · simp only [Bool.false_eq_true, if_false, Bool.and_eq_true, decide_eq_true_eq, hlow',
      hhigh', false_or]
    exact ⟨fun h => ⟨h.1.le, h.2.le, h⟩, fun h => h.2.2⟩
  · simp only [if_true, Bool.and_eq_true, decide_eq_true_eq, hlow, hhigh, true_or, and_true]

lemma digits_lt_pow (n : ℕ) : n < 10 ^ digitCount n :=
  (Nat.length_toDigits_le_iff (by norm_num) Nat.length_toDigits_pos).1 le_rfl

lemma pow_le_digits {n : ℕ} (h : 0 < n) : 10 ^ (digitCount n - 1) ≤ n := by
  rcases Nat.eq_zero_or_pos (digitCount n - 1) with h0 | hpos
  · rw [h0, pow_zero]
    exact h
  · by_contra hlt
    have := (Nat.length_toDigits_le_iff (by norm_num) hpos).2 (not_le.1 hlt)
    unfold digitCount at this hpos
    omega

lemma Decimal.toRat_bounds {d : Decimal} (h : 0 < d.digits) :
    (10 : ℚ) ^ (d.exponent + digitCount d.digits - 1) ≤ d.toRat ∧
      d.toRat < 10 ^ (d.exponent + digitCount d.digits) := by
  have hcount : 0 < digitCount d.digits := Nat.length_toDigits_pos
  have hlow : (10 : ℚ) ^ (digitCount d.digits - 1) ≤ d.digits := by exact_mod_cast pow_le_digits h
  have hhigh : (d.digits : ℚ) < 10 ^ digitCount d.digits := by exact_mod_cast digits_lt_pow _
  have hpos := ten_zpow_pos d.exponent
  constructor
  · calc (10 : ℚ) ^ (d.exponent + digitCount d.digits - 1)
        = 10 ^ (digitCount d.digits - 1) * 10 ^ d.exponent := by
          rw [← zpow_natCast, ← zpow_add₀ (by norm_num)]
          congr 1
          omega
      _ ≤ d.toRat := mul_le_mul_of_nonneg_right hlow hpos.le
  · calc d.toRat < 10 ^ digitCount d.digits * 10 ^ d.exponent :=
          mul_lt_mul_of_pos_right hhigh hpos
      _ = 10 ^ (d.exponent + digitCount d.digits) := by
          rw [← zpow_natCast, ← zpow_add₀ (by norm_num), add_comm]

/-- The numbers of the interval of a double are positive and of no greater size than doubles. -/
lemma Interval.Contains.bounds {m : ℕ} {e : ℤ} {q : ℚ} (h : Normalized m e) (hm : 0 < m)
    (hin : (Interval.of m e).Contains q) : (2 : ℚ) ^ (-1075 : ℤ) ≤ q ∧ q < 2 ^ (1024 : ℤ) := by
  obtain ⟨hlow, hhigh, -, -⟩ := hin.scaled hm
  have hpos := two_zpow_pos e
  have hm' : (1 : ℚ) ≤ m := by exact_mod_cast hm
  have hbits : (m : ℚ) + 1 ≤ 2 ^ 53 := by exact_mod_cast h.bits
  constructor
  · calc (2 : ℚ) ^ (-1075 : ℤ) ≤ 2 ^ (e - 1) :=
          zpow_le_zpow_right₀ (by norm_num) (by have := h.least; omega)
      _ = 1 / 2 * 2 ^ e := by rw [zpow_sub₀ two_ne_zero]; ring
      _ ≤ q := by
          rw [← le_div_iff₀ hpos]
          linarith
  · calc q < 2 ^ (e + (53 : ℕ)) := (lt_zpow_iff e 53).2 (by linarith)
      _ ≤ 2 ^ (1024 : ℤ) :=
          zpow_le_zpow_right₀ (by norm_num) (by have := h.greatest; push_cast; omega)

/-- Powers of ten and of two compared by `2 ^ 93 ≤ 10 ^ 28` and `10 ^ 3 ≤ 2 ^ 10`. -/
lemma ten_zpow_le_two_zpow {p b : ℤ} (h₁ : 10 * p ≤ 3 * b) (h₂ : 93 * p ≤ 28 * b) :
    (10 : ℚ) ^ p ≤ 2 ^ b := by
  rcases le_total 0 p with hp | hp
  · rw [← pow_le_pow_iff_left₀ (ten_zpow_pos p).le (two_zpow_pos b).le three_ne_zero]
    calc ((10 : ℚ) ^ p) ^ 3 = (10 ^ 3) ^ p := by rw [← zpow_natCast, zpow_comm, zpow_natCast]
      _ ≤ (2 ^ 10) ^ p := zpow_le_zpow_left₀ hp (by norm_num) (by norm_num)
      _ = 2 ^ (10 * p) := by rw [← zpow_natCast 2 10, ← zpow_mul]; rfl
      _ ≤ 2 ^ (b * (3 : ℕ)) := zpow_le_zpow_right₀ (by norm_num) (by push_cast; omega)
      _ = (2 ^ b) ^ 3 := by rw [zpow_mul, zpow_natCast]
  · rw [← pow_le_pow_iff_left₀ (ten_zpow_pos p).le (two_zpow_pos b).le (n := 28) (by norm_num)]
    calc ((10 : ℚ) ^ p) ^ 28 = (10 ^ 28) ^ p := by rw [← zpow_natCast, zpow_comm, zpow_natCast]
      _ ≤ (2 ^ 93) ^ p := by
          rw [← neg_neg p, zpow_neg (10 ^ 28) (-p), zpow_neg (2 ^ 93) (-p)]
          exact inv_anti₀ (by positivity)
            (zpow_le_zpow_left₀ (by omega) (by norm_num) (by norm_num))
      _ = 2 ^ (93 * p) := by rw [← zpow_natCast 2 93, ← zpow_mul]; rfl
      _ ≤ 2 ^ (b * (28 : ℕ)) := zpow_le_zpow_right₀ (by norm_num) (by push_cast; omega)
      _ = (2 ^ b) ^ 28 := by rw [zpow_mul, zpow_natCast]

/-- Every decimal in the interval of a double is read as that double. -/
theorem Decimal.toFloat_of_contains {d : Decimal} {m : ℕ} {e : ℤ} (negative : Bool)
    (h : Normalized m e) (hm : 0 < m) (hin : (Interval.of m e).Contains d.toRat) :
    d.toFloat negative = ofSignedBits negative (packedBits m e) := by
  obtain ⟨hmin, hmax⟩ := hin.bounds h hm
  have hdigits : 0 < d.digits := by
    rcases Nat.eq_zero_or_pos d.digits with h0 | hpos
    · have := two_zpow_pos (-1075)
      simp only [Decimal.toRat, h0, Nat.cast_zero, zero_mul] at hmin
      linarith
    · exact hpos
  obtain ⟨hfirst, hlast⟩ := Decimal.toRat_bounds hdigits
  have hsmall : ¬ d.exponent + digitCount d.digits < -340 := by
    intro hlt
    have h₁ : (10 : ℚ) ^ (d.exponent + digitCount d.digits) ≤ 10 ^ (-341 : ℤ) :=
      zpow_le_zpow_right₀ (by norm_num) (by omega)
    have h₂ : (10 : ℚ) ^ (-341 : ℤ) ≤ 2 ^ (-1075 : ℤ) :=
      ten_zpow_le_two_zpow (by norm_num) (by norm_num)
    exact hlast.not_ge ((h₁.trans h₂).trans hmin)
  have hlarge : ¬ d.exponent + digitCount d.digits > 310 := by
    intro hgt
    have h₁ : (10 : ℚ) ^ (310 : ℤ) ≤ 10 ^ (d.exponent + digitCount d.digits - 1) :=
      zpow_le_zpow_right₀ (by norm_num) (by omega)
    have h₂ : (2 : ℚ) ^ (1024 : ℤ) ≤ 10 ^ (310 : ℤ) := by
      have h := ten_zpow_le_two_zpow (p := -310) (b := -1024) (by norm_num) (by norm_num)
      rw [zpow_neg, zpow_neg] at h
      exact (inv_le_inv₀ (ten_zpow_pos _) (two_zpow_pos _)).1 h
    exact hmax.not_ge ((h₂.trans h₁).trans hfirst)
  have hnonzero : ¬ (d.digits == 0 || decide (d.exponent + digitCount d.digits < -340)) = true := by
    simp [hdigits.ne', hsmall]
  unfold Decimal.toFloat
  dsimp only [Nat.pow_eq]
  rw [if_neg hnonzero, if_neg hlarge]
  have hrat := zpow_eq_div 10 d.exponent
  by_cases hneg : d.exponent < 0
  · rw [if_pos hneg, ofRatio, nearestBits_of_contains h hm hdigits (by positivity)]
    rw [Int.toNat_of_nonpos hneg.le, pow_zero] at hrat
    rw [Decimal.toRat, hrat, mul_one_div] at hin
    exact_mod_cast hin
  · rw [if_neg hneg, ofRatio, nearestBits_of_contains h hm (by positivity) one_pos]
    rw [Int.toNat_of_nonpos (by omega : -d.exponent ≤ 0), pow_zero, div_one] at hrat
    rw [Decimal.toRat, hrat] at hin
    rw [Nat.cast_one, div_one]
    exact_mod_cast hin

lemma Interval.floorAt_bounds (i : Interval) (place : ℤ) :
    (i.floorAt place : ℚ) * 10 ^ place ≤ i.value * 2 ^ i.unit ∧
      i.value * 2 ^ i.unit < ((i.floorAt place + 1 : ℕ) : ℚ) * 10 ^ place := by
  have hunits : ∀ n, commonUnit i.value i.unit n place =
      ((commonUnit i.value i.unit 1 place).1, n * (commonUnit i.value i.unit 1 place).2) := by
    intro n
    simp only [commonUnit, one_mul, mul_assoc]
  have hone : 0 < (commonUnit i.value i.unit 1 place).2 := by
    simp only [commonUnit, Nat.pow_eq]
    positivity
  have hfloor : i.floorAt place = (commonUnit i.value i.unit 1 place).1 /
      (commonUnit i.value i.unit 1 place).2 := rfl
  have hbelow := (commonUnit_lt_iff i.value i.unit (i.floorAt place) place).not
  have habove := commonUnit_lt_iff i.value i.unit (i.floorAt place + 1) place
  rw [hunits, not_lt, not_lt, hfloor] at hbelow
  rw [hunits, hfloor] at habove
  rw [hfloor]
  exact ⟨hbelow.1 (Nat.div_mul_le_self _ _),
    habove.1 ((Nat.div_lt_iff_lt_mul hone).1 (Nat.lt_succ_self _))⟩

/-- A place no larger than a quarter of the last place has a member, the value cut off. -/
lemma Interval.has_floorAt {m : ℕ} {e place : ℤ} (hm : 0 < m)
    (hplace : (10 : ℚ) ^ place ≤ 2 ^ (e - 2)) :
    (Interval.of m e).has ⟨(Interval.of m e).floorAt place, place⟩ = true := by
  obtain ⟨hbelow, habove⟩ := (Interval.of m e).floorAt_bounds place
  have hpos := two_zpow_pos (e - 2)
  have hlow := Interval.low_eq e hm
  have hlow' : ((Interval.of m e).low : ℚ) ≤ 4 * m - 1 := by
    rw [hlow]
    split_ifs <;> linarith
  rw [Interval.has_iff]
  generalize hf : (Interval.of m e).floorAt place = floor at *
  simp only [Interval.of] at hbelow habove
  push_cast at hbelow habove
  have h₁ : ((Interval.of m e).low : ℚ) * 2 ^ (e - 2) < floor * 10 ^ place := by nlinarith
  have h₂ : (floor : ℚ) * 10 ^ place < (Interval.of m e).high * 2 ^ (e - 2) := by
    simp only [Interval.of]
    push_cast
    nlinarith
  exact ⟨h₁.le, h₂.le, .inr ⟨h₁, h₂⟩⟩

lemma Interval.has_of_memberAt {i : Interval} {place : ℤ} {d : Decimal}
    (h : i.memberAt place = some d) : i.has d = true := by
  unfold memberAt at h
  dsimp only at h
  split at h
  · rename_i hbelow habove
    cases h
    split_ifs
    · exact habove
    · exact hbelow
  · rename_i hbelow _
    cases h
    exact hbelow
  · rename_i _ habove
    cases h
    exact habove
  · cases h

/-- The search ends at a member if it may go down far enough. -/
lemma Interval.has_firstMember {m : ℕ} {e : ℤ} (hm : 0 < m) (limit : ℕ) (place : ℤ)
    (hplace : (10 : ℚ) ^ (place - limit) ≤ 2 ^ (e - 2)) :
    (Interval.of m e).has ((Interval.of m e).firstMember place limit) = true := by
  induction limit generalizing place with
  | zero =>
    rw [firstMember]
    exact Interval.has_floorAt hm (by simpa using hplace)
  | succ limit ih =>
    rw [firstMember]
    split
    · exact Interval.has_of_memberAt (by assumption)
    · apply ih
      rwa [show place - 1 - (limit : ℤ) = place - ((limit + 1 : ℕ) : ℤ) by push_cast; ring]

lemma Decimal.toRat_strip (d : Decimal) (limit : ℕ) : (d.strip limit).toRat = d.toRat := by
  induction limit generalizing d with
  | zero => rfl
  | succ limit ih =>
    rw [strip]
    split_ifs with hzero
    · rw [ih]
      have hdigits : (d.digits : ℚ) = (d.digits / 10 : ℕ) * 10 := by
        have : d.digits = d.digits / 10 * 10 := by
          have : d.digits % 10 = 0 := by simpa using hzero
          omega
        exact_mod_cast this
      simp only [toRat]
      rw [hdigits, zpow_add₀ (by norm_num), zpow_one]
      ring
    · rfl

/-- The shortest decimal of a double is rounded to that double. -/
theorem Interval.contains_shortest {m : ℕ} {e : ℤ} (h : Normalized m e) (hm : 0 < m) :
    (Interval.of m e).Contains (shortest m e).toRat := by
  rw [shortest, Decimal.toRat_strip, ← Interval.has_iff]
  apply Interval.has_firstMember hm
  have hlog : m.log2 < 53 := (Nat.log2_lt hm.ne').2 h.bits
  have hleast := h.least
  have hgreatest := h.greatest
  unfold placeAbove
  apply ten_zpow_le_two_zpow <;> (push_cast; omega)

end PostfixCalculator.Number
