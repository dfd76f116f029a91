import PostfixCalculator.Number.Literal
import PostfixCalculator.Number.Rendering
import PostfixCalculator.Text.Blank
import PostfixCalculator.Proofs.Number.Shortest

/-!
# Doubles written and read back

The text of every double is one number literal, and its value is that double: the sign of
zero, both infinities and what is not a number included.
-/
namespace PostfixCalculator.Number

open Text

/-- The digits of a text in the order in which they are read. -/
lemma ofDigits_eq_ofDigitChars {digits : List Char} (h : ∀ c ∈ digits, c.isDigit = true) :
    ofDigits 10 digits = Nat.ofDigitChars 10 digits 0 := by
  have hdigit : ∀ c : Char, c.isDigit = true → (baseDigit? 10 c).getD 0 = c.toNat - '0'.toNat := by
    intro c hc
    have hrange := hc
    simp only [Char.isDigit, Bool.and_eq_true, decide_eq_true_eq] at hrange
    have hlt : c.toNat - 48 < 10 := by
      have : c.val ≤ 57 := hrange.2
      have : c.toNat ≤ 57 := this
      omega
    simp only [baseDigit?, hc, if_true, if_pos hlt, Option.getD_some]
    rfl
  rw [ofDigits, Nat.ofDigitChars_eq_foldl]
  apply List.foldl_ext
  intro n c hc
  rw [hdigit c (h c hc)]

lemma spanDigits_append {digits rest : List Char} (h : ∀ c ∈ digits, c.isDigit = true)
    (hrest : ∀ c ∈ rest.head?, c.isDigit = false) :
    spanDigits (digits ++ rest) = (digits, rest) := by
  have hstop : rest.takeWhile Char.isDigit = [] ∧ rest.dropWhile Char.isDigit = rest := by
    cases rest with
    | nil => simp
    | cons c rest => simp [hrest c (by simp)]
  rw [spanDigits, List.takeWhile_append_of_pos h, List.dropWhile_append_of_pos h, hstop.1,
    hstop.2, List.append_nil]

lemma unsignedDecimal?_fraction (whole fraction : List Char) {tail : List Char} {e : ℤ}
    (hne : whole ≠ []) (hwhole : ∀ c ∈ whole, c.isDigit = true)
    (hfraction : ∀ c ∈ fraction, c.isDigit = true)
    (htail : ∀ c ∈ tail.head?, c.isDigit = false) (he : exponent? tail = some e) :
    unsignedDecimal? (whole ++ '.' :: (fraction ++ tail)) =
      some ⟨ofDigits 10 (whole ++ fraction), e - fraction.length⟩ := by
  have hspan : spanDigits (whole ++ '.' :: (fraction ++ tail)) =
      (whole, '.' :: (fraction ++ tail)) := spanDigits_append hwhole (by simp)
  simp [unsignedDecimal?, hspan, spanFraction, spanDigits_append hfraction htail, hne, he]

lemma unsignedDecimal?_whole {whole tail : List Char} {e : ℤ} (hne : whole ≠ [])
    (hwhole : ∀ c ∈ whole, c.isDigit = true)
    (htail : ∀ c ∈ tail.head?, c.isDigit = false ∧ c ≠ '.') (he : exponent? tail = some e) :
    unsignedDecimal? (whole ++ tail) = some ⟨ofDigits 10 whole, e⟩ := by
  have hspan : spanDigits (whole ++ tail) = (whole, tail) :=
    spanDigits_append hwhole fun c hc => (htail c hc).1
  have hpoint : spanFraction tail = ([], tail) := by
    unfold spanFraction
    split
    · exact absurd rfl (htail '.' (by simp)).2
    · rfl
  simp [unsignedDecimal?, hspan, hpoint, hne, he]

lemma isDigit_toDigits {n : ℕ} : ∀ c ∈ Nat.toDigits 10 n, c.isDigit = true :=
  fun _ hc => Nat.isDigit_of_mem_toDigits (by norm_num) (by norm_num) hc

lemma isDigit_zeros {k : ℤ} : ∀ c ∈ zeros k, c.isDigit = true :=
  fun _ hc => (List.eq_of_mem_replicate hc) ▸ rfl

lemma ofDigits_toDigits (n : ℕ) : ofDigits 10 (Nat.toDigits 10 n) = n := by
  rw [ofDigits_eq_ofDigitChars isDigit_toDigits, Nat.ofDigitChars_ten_toDigits]

lemma ofDigits_zeros_append (k : ℤ) (n : ℕ) :
    ofDigits 10 (zeros k ++ Nat.toDigits 10 n) = n := by
  rw [ofDigits_eq_ofDigitChars (List.forall_mem_append.2 ⟨isDigit_zeros, isDigit_toDigits⟩),
    Nat.ofDigitChars_append, zeros, Nat.ofDigitChars_replicate_zero, mul_zero,
    Nat.ofDigitChars_ten_toDigits]

lemma ofDigits_append_zeros (k : ℤ) (n : ℕ) :
    ofDigits 10 (Nat.toDigits 10 n ++ zeros k) = n * 10 ^ k.toNat := by
  rw [ofDigits_eq_ofDigitChars (List.forall_mem_append.2 ⟨isDigit_toDigits, isDigit_zeros⟩),
    Nat.ofDigitChars_append, Nat.ofDigitChars_ten_toDigits, zeros,
    Nat.ofDigitChars_replicate_zero, mul_comm]

lemma exponent?_exponentText (e : ℤ) : exponent? (exponentText e) = some e := by
  have hvalue := ofDigits_zeros_append (2 - (Nat.toDigits 10 e.natAbs).length) e.natAbs
  have hall : (zeros (2 - (Nat.toDigits 10 e.natAbs).length) ++
      Nat.toDigits 10 e.natAbs).all Char.isDigit = true :=
    List.all_eq_true.2 (List.forall_mem_append.2 ⟨isDigit_zeros, isDigit_toDigits⟩)
  have hsome : (zeros (2 - (Nat.toDigits 10 e.natAbs).length) ++
      Nat.toDigits 10 e.natAbs).isEmpty = false := by
    simp [Nat.toDigits_ne_nil]
  unfold exponentText
  dsimp only [List.cons_append]
  generalize zeros (2 - ((Nat.toDigits 10 e.natAbs).length : ℤ)) ++
    Nat.toDigits 10 e.natAbs = digits at *
  by_cases h : e < 0
  · simp [h, exponent?, splitSign, hall, hsome, hvalue, Int.ofNat_natAbs_of_nonpos h.le]
  · simp [h, exponent?, splitSign, hall, hsome, hvalue, abs_of_nonneg (not_lt.1 h)]

lemma exponentText_head (e : ℤ) :
    ∀ c ∈ (exponentText e).head?, c.isDigit = false ∧ c ≠ '.' := by
  intro c hc
  have : c = 'e' := by simpa [exponentText, eq_comm] using hc
  subst this
  decide

lemma zeros_append_zero {k : ℤ} (hk : 0 ≤ k) : zeros k ++ ['0'] = zeros (k + 1) := by
  rw [zeros, zeros, Int.toNat_add hk (by norm_num)]
  exact List.replicate_succ'.symm

lemma unsignedDecimal?_positional (d : Decimal) :
    ∃ d', unsignedDecimal? (positional (Nat.toDigits 10 d.digits)
        ((Nat.toDigits 10 d.digits).length + d.exponent)) = some d' ∧ d'.toRat = d.toRat := by
  have hne : Nat.toDigits 10 d.digits ≠ [] := Nat.toDigits_ne_nil
  have hdigits := isDigit_toDigits (n := d.digits)
  have hnil : ∀ c ∈ ([] : List Char).head?, c.isDigit = false := by simp
  generalize hpoint : ((Nat.toDigits 10 d.digits).length : ℤ) + d.exponent = point
  unfold positional
  split_ifs with hleft hright
  · -- zeros stand between the point and the digits
    have hread := unsignedDecimal?_fraction ['0'] _ (by simp) (List.all_eq_true.1 rfl)
      (List.forall_mem_append.2 ⟨isDigit_zeros (k := -point), hdigits⟩) hnil rfl
    have hzero : ofDigits 10 (['0'] ++ (zeros (-point) ++ Nat.toDigits 10 d.digits)) = d.digits :=
      ofDigits_zeros_append (-point) d.digits
    have hexponent : 0 - ((zeros (-point) ++ Nat.toDigits 10 d.digits).length : ℤ) =
        d.exponent := by
      simp only [List.length_append, zeros, List.length_replicate]
      omega
    rw [hzero, hexponent, List.append_nil] at hread
    exact ⟨d, hread, rfl⟩
  · -- zeros stand between the digits and the point
    have hread := unsignedDecimal?_fraction _ ['0'] (by simp [hne])
      (List.forall_mem_append.2 ⟨hdigits, isDigit_zeros (k := d.exponent)⟩) (List.all_eq_true.1 rfl)
      hnil rfl
    have hwhole : d.exponent = point - (Nat.toDigits 10 d.digits).length := by omega
    have hzeros : 0 ≤ d.exponent := by omega
    rw [List.append_assoc _ (zeros _) ['0'], zeros_append_zero hzeros,
      ofDigits_append_zeros] at hread
    rw [← hwhole]
    refine ⟨_, hread, ?_⟩
    have hpow : (10 : ℚ) ^ (d.exponent + 1).toNat = 10 ^ (d.exponent + 1) := by
      rw [← zpow_natCast, Int.toNat_of_nonneg (by omega)]
    simp only [Decimal.toRat, Nat.cast_mul, Nat.cast_pow, Nat.cast_ofNat, hpow, mul_assoc]
    rw [← zpow_add₀ (by norm_num)]
    simp
  · -- the point stands among the digits
    have hread := unsignedDecimal?_fraction ((Nat.toDigits 10 d.digits).take point.toNat)
      ((Nat.toDigits 10 d.digits).drop point.toNat) (by simp [hne]; omega)
      (fun c hc => hdigits c (List.mem_of_mem_take hc))
      (fun c hc => hdigits c (List.mem_of_mem_drop hc)) hnil rfl
    have hexponent : 0 - (((Nat.toDigits 10 d.digits).drop point.toNat).length : ℤ) =
        d.exponent := by
      rw [List.length_drop]
      omega
    rw [List.take_append_drop, ofDigits_toDigits, hexponent, List.append_nil] at hread
    exact ⟨d, hread, rfl⟩

lemma unsignedDecimal?_scientific (d : Decimal) :
    unsignedDecimal? (scientific (Nat.toDigits 10 d.digits)
        ((Nat.toDigits 10 d.digits).length + d.exponent)) = some d := by
  have hread := exponent?_exponentText ((Nat.toDigits 10 d.digits).length + d.exponent - 1)
  have hhead := exponentText_head ((Nat.toDigits 10 d.digits).length + d.exponent - 1)
  have hvalue := ofDigits_toDigits d.digits
  have hdigits := isDigit_toDigits (n := d.digits)
  generalize hd : Nat.toDigits 10 d.digits = digits at *
  cases digits with
  | nil => exact absurd hd Nat.toDigits_ne_nil
  | cons first rest =>
    obtain ⟨hfirst, hrest⟩ := List.forall_mem_cons.1 hdigits
    have hwhole : ∀ c ∈ [first], c.isDigit = true := by simpa using hfirst
    cases rest with
    | nil =>
      have hd := unsignedDecimal?_whole (by simp) hwhole hhead hread
      rw [hvalue] at hd
      simpa [scientific] using hd
    | cons second rest =>
      have hd := unsignedDecimal?_fraction [first] (second :: rest) (by simp) hwhole hrest
        (fun c hc => (hhead c hc).1) hread
      rw [List.singleton_append, List.singleton_append, hvalue] at hd
      have hexponent : ((first :: second :: rest).length : ℤ) + d.exponent - 1 -
          (second :: rest).length = d.exponent := by
        simp only [List.length_cons]
        omega
      rw [hexponent] at hd
      simpa [scientific] using hd

/-- A decimal in either form is read as the same number. -/
theorem unsignedDecimal?_render (d : Decimal) :
    ∃ d', unsignedDecimal? d.render = some d' ∧ d'.toRat = d.toRat := by
  unfold Decimal.render
  dsimp only
  split_ifs
  · exact unsignedDecimal?_positional d
  · exact ⟨d, unsignedDecimal?_scientific d, rfl⟩

lemma splitSign_of_unsignedDecimal? {text : List Char} {d : Decimal}
    (h : unsignedDecimal? text = some d) : splitSign text = (false, text) := by
  unfold splitSign
  split
  · cases h
  · cases h
  · rfl

lemma read?_signed {text : List Char} {d : Decimal} (negative : Bool)
    (h : unsignedDecimal? text = some d) :
    Literal.read? (signed negative text) = some (.decimal negative d) := by
  unfold Literal.read? signed
  cases negative
  · simp [splitSign_of_unsignedDecimal? h, h]
  · simp [splitSign, h]

lemma isBlank_of_all {cs : List Char} (h : (cs.all fun c => !isBlank c) = true) :
    ∀ c ∈ cs, isBlank c = false := by simpa using h

lemma isBlank_digit {c : Char} (h : c.isDigit = true) : isBlank c = false := by
  simp only [Char.isDigit, Bool.and_eq_true, decide_eq_true_eq] at h
  have h₁ : 48 ≤ c.toNat := h.1
  have h₂ : c.toNat ≤ 57 := h.2
  simp only [isBlank, RangeTable.has, blankTable, List.any_cons, List.any_nil, Bool.or_eq_false_iff,
    Bool.and_eq_false_iff, decide_eq_false_iff_not, not_le, and_true]
  omega

lemma isBlank_digits {digits : List Char} (h : ∀ c ∈ digits, c.isDigit = true) :
    ∀ c ∈ digits, isBlank c = false := fun c hc => isBlank_digit (h c hc)

lemma isBlank_exponentText (e : ℤ) : ∀ c ∈ exponentText e, isBlank c = false := by
  unfold exponentText
  dsimp only [List.cons_append]
  refine List.forall_mem_cons.2 ⟨by decide, List.forall_mem_cons.2 ⟨by split_ifs <;> decide, ?_⟩⟩
  exact isBlank_digits (List.forall_mem_append.2 ⟨isDigit_zeros, isDigit_toDigits⟩)

lemma isBlank_positional {digits : List Char} (h : ∀ c ∈ digits, c.isDigit = true) (point : ℤ) :
    ∀ c ∈ positional digits point, isBlank c = false := by
  unfold positional
  split_ifs
  · refine List.forall_mem_cons.2 ⟨by decide, List.forall_mem_cons.2 ⟨by decide, ?_⟩⟩
    exact isBlank_digits (List.forall_mem_append.2 ⟨isDigit_zeros, h⟩)
  · refine List.forall_mem_append.2 ⟨?_, isBlank_of_all (by decide)⟩
    exact isBlank_digits (List.forall_mem_append.2 ⟨h, isDigit_zeros⟩)
  · refine List.forall_mem_append.2 ⟨?_, List.forall_mem_cons.2 ⟨by decide, ?_⟩⟩
    · exact isBlank_digits fun c hc => h c (List.mem_of_mem_take hc)
    · exact isBlank_digits fun c hc => h c (List.mem_of_mem_drop hc)

lemma isBlank_scientific {digits : List Char} (h : ∀ c ∈ digits, c.isDigit = true) (point : ℤ) :
    ∀ c ∈ scientific digits point, isBlank c = false := by
  unfold scientific
  split
  · simp
  · rename_i first rest
    obtain ⟨hfirst, hrest⟩ := List.forall_mem_cons.1 h
    refine List.forall_mem_append.2 ⟨List.forall_mem_cons.2 ⟨isBlank_digit hfirst, ?_⟩,
      isBlank_exponentText _⟩
    split_ifs
    · simp
    · exact List.forall_mem_cons.2 ⟨by decide, isBlank_digits hrest⟩

lemma isBlank_decimal (d : Decimal) : ∀ c ∈ d.render, isBlank c = false := by
  unfold Decimal.render
  dsimp only
  split_ifs
  · exact isBlank_positional isDigit_toDigits _
  · exact isBlank_scientific isDigit_toDigits _

/-- The text of a positive finite double is a decimal that is read as that double. -/
lemma unsignedDecimal?_renderMagnitude {m : ℕ} {e : ℤ} (h : Normalized m e) (negative : Bool) :
    ∃ d, unsignedDecimal? (renderMagnitude m e) = some d ∧
      d.toFloat negative = ofSignedBits negative (packedBits m e) := by
  rcases Nat.eq_zero_or_pos m with rfl | hm
  · have he : e = -1074 := h.leading.resolve_right (by norm_num)
    subst he
    exact ⟨⟨0, -1⟩, by decide, rfl⟩
  · obtain ⟨d, hread, hvalue⟩ := unsignedDecimal?_render (shortest m e)
    refine ⟨d, ?_, Decimal.toFloat_of_contains negative h hm ?_⟩
    · rw [renderMagnitude, if_neg (by simpa using hm.ne'), hread]
    · rw [hvalue]
      exact Interval.contains_shortest h hm

/-- The text of a double is a literal of that double. -/
theorem read?_render (x : Float) : ∃ literal, Literal.read? (render x) = some literal ∧
    literal.value = x := by
  unfold render
  cases hx : exact x with
  | notNumber => exact ⟨.notNumber, by decide, exact_notNumber hx⟩
  | infinite negative =>
    refine ⟨.infinity negative, ?_, exact_infinite hx⟩
    cases negative <;> decide
  | finite negative m e =>
    obtain ⟨hnormal, hbits⟩ := exact_finite hx
    obtain ⟨d, hread, hvalue⟩ := unsignedDecimal?_renderMagnitude hnormal negative
    exact ⟨.decimal negative d, read?_signed negative hread, hvalue.trans hbits⟩

theorem isBlank_render (x : Float) : ∀ c ∈ render x, isBlank c = false := by
  have hsigned : ∀ (negative : Bool) (text : List Char), (∀ c ∈ text, isBlank c = false) →
      ∀ c ∈ signed negative text, isBlank c = false := by
    intro negative text h
    cases negative
    · exact h
    · exact List.forall_mem_cons.2 ⟨by decide, h⟩
  unfold render
  cases exact x with
  | notNumber => exact isBlank_of_all (by decide : (['n', 'a', 'n'].all fun c => !isBlank c) = true)
  | infinite negative => exact hsigned negative _ (isBlank_of_all (by decide))
  | finite negative m e =>
    apply hsigned
    unfold renderMagnitude
    split_ifs
    · exact isBlank_of_all (by decide)
    · exact isBlank_decimal _

theorem render_ne_nil (x : Float) : render x ≠ [] := by
  intro h
  obtain ⟨literal, hread, -⟩ := read?_render x
  rw [h] at hread
  cases hread

end PostfixCalculator.Number
