import PostfixCalculator.Number.Reading
import PostfixCalculator.Proofs.Misspelling

/-!
# The grammar of number literals

The literals are read off exactly the texts of a grammar: a sign, if any, before a decimal or
before a word. The characters of these texts are plain, so reading a number as people write them
gives the same double.
-/
namespace PostfixCalculator.Number

open Text

/-- The digits of a decimal before its exponent: some with a point behind or among them or
without one, or a point and some behind it. -/
inductive Mantissa : (text whole fraction : List Char) → Prop
  | whole {whole : List Char} (hne : whole ≠ []) (hwhole : ∀ c ∈ whole, c.isDigit = true) :
      Mantissa whole whole []
  | pointed {whole fraction : List Char} (hne : whole ≠ [])
      (hwhole : ∀ c ∈ whole, c.isDigit = true) (hfraction : ∀ c ∈ fraction, c.isDigit = true) :
      Mantissa (whole ++ '.' :: fraction) whole fraction
  | fraction {fraction : List Char} (hne : fraction ≠ [])
      (hfraction : ∀ c ∈ fraction, c.isDigit = true) : Mantissa ('.' :: fraction) [] fraction

/-- An exponent, or nothing. -/
inductive ExponentPart : List Char → ℤ → Prop
  | missing : ExponentPart [] 0
  | given {mark : Char} {sign digits : List Char} (hmark : mark ∈ ['e', 'E'])
      (hsign : sign ∈ signs) (hne : digits ≠ []) (hdigits : ∀ c ∈ digits, c.isDigit = true) :
      ExponentPart (mark :: (sign ++ digits))
        (if sign = ['-'] then -(ofDigits 10 digits : ℤ) else ofDigits 10 digits)

/-- The texts of the decimals without a sign, with the decimal that each is read as. -/
inductive DecimalText : List Char → Decimal → Prop
  | parts {mantissa exponent whole fraction : List Char} {e : ℤ}
      (hmantissa : Mantissa mantissa whole fraction) (hexponent : ExponentPart exponent e) :
      DecimalText (mantissa ++ exponent) ⟨ofDigits 10 (whole ++ fraction), e - fraction.length⟩

/-- The texts of a literal: a decimal, or a word in any case of its letters. -/
inductive Literal.WrittenAs : Literal → List Char → Prop
  | decimal {sign text : List Char} {d : Decimal} (hsign : sign ∈ signs)
      (htext : DecimalText text d) : WrittenAs (.decimal (sign == ['-']) d) (sign ++ text)
  | infinity {sign letters : List Char} (hsign : sign ∈ signs)
      (hletters : letters.map Char.toLower ∈ infinityWords) :
      WrittenAs (.infinity (sign == ['-'])) (sign ++ letters)
  | notNumber {sign letters : List Char} (hsign : sign ∈ signs)
      (hletters : letters.map Char.toLower = ['n', 'a', 'n']) :
      WrittenAs .notNumber (sign ++ letters)

variable {text sign fraction letters : List Char} {c : Char} {e : ℤ} {d : Decimal}
  {literal : Literal}

lemma exists_sign (text : List Char) : ∃ sign ∈ signs, text = sign ++ (splitSign text).2 ∧
    (splitSign text).1 = (sign == ['-']) := by
  unfold splitSign
  split
  · exact ⟨['-'], by simp [signs], rfl, rfl⟩
  · exact ⟨['+'], by simp [signs], rfl, rfl⟩
  · exact ⟨[], by simp [signs], rfl, rfl⟩

lemma splitSign_sign (hsign : sign ∈ signs) (h : ∀ c ∈ text.head?, c ≠ '+' ∧ c ≠ '-') :
    splitSign (sign ++ text) = (sign == ['-'], text) := by
  simp only [signs, List.mem_cons, List.not_mem_nil, or_false] at hsign
  rcases hsign with rfl | rfl | rfl
  · rw [List.nil_append]
    unfold splitSign
    split
    · exact absurd rfl (h '-' (by simp)).2
    · exact absurd rfl (h '+' (by simp)).1
    · rfl
  · rfl
  · rfl

lemma spanDigits_eq (text : List Char) :
    text = (spanDigits text).1 ++ (spanDigits text).2 ∧ ∀ c ∈ (spanDigits text).1, c.isDigit = true :=
  ⟨List.takeWhile_append_dropWhile.symm, fun _ hc => List.mem_takeWhile_imp hc⟩

lemma digit_ne (h : c.isDigit = true) : c ≠ '.' ∧ c ≠ '+' ∧ c ≠ '-' := by
  refine ⟨?_, ?_, ?_⟩ <;> (rintro rfl; revert h; decide)

lemma exponentPart_of_exponent? (h : exponent? text = some e) : ExponentPart text e := by
  cases text with
  | nil =>
    cases h
    exact .missing
  | cons mark rest =>
    obtain ⟨sign, hsign, hrest, hnegative⟩ := exists_sign rest
    unfold exponent? at h
    dsimp only at h
    obtain ⟨hparts, he⟩ := Option.ite_none_right_eq_some.1 h
    simp only [Bool.and_eq_true, Bool.or_eq_true, beq_iff_eq, List.all_eq_true, Bool.not_eq_true',
      List.isEmpty_eq_false_iff] at hparts
    obtain ⟨⟨hmark, hne⟩, hdigits⟩ := hparts
    have hmark' : mark ∈ ['e', 'E'] := by simpa using hmark
    have hpart := ExponentPart.given hmark' hsign hne hdigits
    rw [hnegative] at he
    simp only [beq_iff_eq, Option.some.injEq] at he
    rwa [← hrest, he] at hpart

lemma exponent?_of_exponentPart (h : ExponentPart text e) : exponent? text = some e := by
  cases h with
  | missing => rfl
  | @given mark sign digits hmark hsign hne hdigits =>
    have hhead : ∀ c ∈ digits.head?, c ≠ '+' ∧ c ≠ '-' :=
      fun c hc => (digit_ne (hdigits c (List.mem_of_mem_head? hc))).2
    have hall : digits.all Char.isDigit = true := List.all_eq_true.2 hdigits
    have hmark' : (mark == 'e' || mark == 'E') = true := by simpa using hmark
    simp [exponent?, splitSign_sign hsign hhead, hall, hne, hmark']

lemma ExponentPart.head (h : ExponentPart text e) : ∀ c ∈ text.head?, c.isDigit = false ∧ c ≠ '.' := by
  cases h with
  | missing => simp
  | given hmark =>
    rintro c hc
    cases hc
    simp only [List.mem_cons, List.not_mem_nil, or_false] at hmark
    rcases hmark with rfl | rfl <;> decide

lemma unsignedDecimal?_point (hne : fraction ≠ []) (hfraction : ∀ c ∈ fraction, c.isDigit = true)
    (hhead : ∀ c ∈ text.head?, c.isDigit = false) (he : exponent? text = some e) :
    unsignedDecimal? ('.' :: (fraction ++ text)) =
      some ⟨ofDigits 10 fraction, e - fraction.length⟩ := by
  have hspan : spanDigits ('.' :: (fraction ++ text)) = ([], '.' :: (fraction ++ text)) := rfl
  simp [unsignedDecimal?, hspan, spanFraction, spanDigits_append hfraction hhead, hne, he]

lemma unsignedDecimal?_of_text (h : DecimalText text d) : unsignedDecimal? text = some d := by
  obtain ⟨hmantissa, hexponent⟩ := h
  have he := exponent?_of_exponentPart hexponent
  have hhead := hexponent.head
  cases hmantissa with
  | whole hne hwhole => simpa using unsignedDecimal?_whole hne hwhole hhead he
  | pointed hne hwhole hfraction =>
    rw [List.append_assoc]
    exact unsignedDecimal?_fraction _ _ hne hwhole hfraction (fun c hc => (hhead c hc).1) he
  | fraction hne hfraction =>
    exact unsignedDecimal?_point hne hfraction (fun c hc => (hhead c hc).1) he

lemma text_of_unsignedDecimal? (h : unsignedDecimal? text = some d) : DecimalText text d := by
  obtain ⟨htext, hwhole⟩ := spanDigits_eq text
  unfold unsignedDecimal? at h
  dsimp only at h
  generalize (spanDigits text).1 = whole at *
  generalize (spanDigits text).2 = rest at *
  subst htext
  unfold spanFraction at h
  split at h
  · next rest =>
    -- a point follows
    obtain ⟨hrest, hfraction⟩ := spanDigits_eq rest
    generalize (spanDigits rest).1 = fraction at *
    generalize (spanDigits rest).2 = tail at *
    subst hrest
    split_ifs at h with hempty
    obtain ⟨e, he, rfl⟩ := Option.map_eq_some_iff.1 h
    have hexponent := exponentPart_of_exponent? he
    rw [← List.cons_append, ← List.append_assoc]
    refine .parts ?_ hexponent
    cases whole with
    | nil => exact .fraction (by simpa using hempty) hfraction
    | cons first whole => exact .pointed (by simp) hwhole hfraction
  · split_ifs at h with hempty
    obtain ⟨e, he, rfl⟩ := Option.map_eq_some_iff.1 h
    have hmantissa : Mantissa whole whole [] := .whole (by simpa using hempty) hwhole
    exact .parts hmantissa (exponentPart_of_exponent? he)

theorem unsignedDecimal?_eq_some_iff : unsignedDecimal? text = some d ↔ DecimalText text d :=
  ⟨text_of_unsignedDecimal?, unsignedDecimal?_of_text⟩

lemma DecimalText.head (h : DecimalText text d) :
    ∃ c rest, text = c :: rest ∧ (c.isDigit = true ∨ c = '.') := by
  obtain ⟨hmantissa, -⟩ := h
  cases hmantissa with
  | @whole digits hne hdigits =>
    obtain ⟨first, rest, rfl⟩ := List.exists_cons_of_ne_nil hne
    exact ⟨first, _, rfl, .inl (hdigits first List.mem_cons_self)⟩
  | @pointed digits fraction hne hdigits hfraction =>
    obtain ⟨first, rest, rfl⟩ := List.exists_cons_of_ne_nil hne
    exact ⟨first, _, rfl, .inl (hdigits first List.mem_cons_self)⟩
  | fraction => exact ⟨'.', _, rfl, .inr rfl⟩

/-- The characters that literals are made of, and more letters than they use. -/
def isLiteralChar (c : Char) : Bool := c.isAlphanum || c == '.' || c == '+' || c == '-'

lemma isAlpha_iff : c.isAlpha = true ↔ 65 ≤ c.toNat ∧ c.toNat ≤ 90 ∨ 97 ≤ c.toNat ∧ c.toNat ≤ 122 := by
  simp [Char.isAlpha, Char.isUpper, Char.isLower, UInt32.le_iff_toNat_le, ← Char.toNat_val]

lemma isDigit_iff : c.isDigit = true ↔ 48 ≤ c.toNat ∧ c.toNat ≤ 57 := by
  simp [Char.isDigit, UInt32.le_iff_toNat_le, ← Char.toNat_val]

lemma isLiteralChar_of_isDigit (h : c.isDigit = true) : isLiteralChar c = true := by
  simp [isLiteralChar, Char.isAlphanum, h]

lemma isLiteralChar_of_isAlpha (h : c.isAlpha = true) : isLiteralChar c = true := by
  simp [isLiteralChar, Char.isAlphanum, h]

lemma isLiteralChar_of_sign (h : sign ∈ signs) : ∀ c ∈ sign, isLiteralChar c = true := by
  simp only [signs, List.mem_cons, List.not_mem_nil, or_false] at h
  rcases h with rfl | rfl | rfl <;> simp [isLiteralChar]

lemma isAlpha_of_toLower (h : c.toLower.isAlpha = true) : c.isAlpha = true := by
  by_cases hupper : c.isUpper = true
  · simp [Char.isAlpha, hupper]
  · rwa [Char.toLower_eq_of_not_isUpper hupper] at h

lemma isAlpha_of_mem_word {word : List Char} (h : word ∈ infinityWords ∨ word = ['n', 'a', 'n']) :
    word ≠ [] ∧ ∀ c ∈ word, c.isAlpha = true := by
  simp only [infinityWords, List.mem_cons, List.not_mem_nil, or_false] at h
  rcases h with (rfl | rfl) | rfl <;> simp [isAlpha_iff]

lemma isAlpha_of_word
    (h : letters.map Char.toLower ∈ infinityWords ∨ letters.map Char.toLower = ['n', 'a', 'n']) :
    letters ≠ [] ∧ ∀ c ∈ letters, c.isAlpha = true := by
  obtain ⟨hne, hletters⟩ := isAlpha_of_mem_word h
  refine ⟨by simpa using hne, fun c hc => ?_⟩
  exact isAlpha_of_toLower (hletters _ (List.mem_map_of_mem hc))

lemma DecimalText.isLiteralChar (h : DecimalText text d) : ∀ c ∈ text, isLiteralChar c = true := by
  obtain ⟨hmantissa, hexponent⟩ := h
  refine List.forall_mem_append.2 ⟨?_, ?_⟩
  · cases hmantissa with
    | whole _ hwhole => exact fun c hc => isLiteralChar_of_isDigit (hwhole c hc)
    | pointed _ hwhole hfraction =>
      refine List.forall_mem_append.2 ⟨fun c hc => isLiteralChar_of_isDigit (hwhole c hc), ?_⟩
      exact List.forall_mem_cons.2
        ⟨by decide, fun c hc => isLiteralChar_of_isDigit (hfraction c hc)⟩
    | fraction _ hfraction =>
      exact List.forall_mem_cons.2
        ⟨by decide, fun c hc => isLiteralChar_of_isDigit (hfraction c hc)⟩
  · cases hexponent with
    | missing => simp
    | given hmark hsign _ hdigits =>
      refine List.forall_mem_cons.2 ⟨?_, List.forall_mem_append.2
        ⟨isLiteralChar_of_sign hsign, fun c hc => isLiteralChar_of_isDigit (hdigits c hc)⟩⟩
      simp only [List.mem_cons, List.not_mem_nil, or_false] at hmark
      rcases hmark with rfl | rfl <;> decide

lemma Literal.WrittenAs.isLiteralChar (h : literal.WrittenAs text) :
    ∀ c ∈ text, isLiteralChar c = true := by
  cases h with
  | decimal hsign htext =>
    exact List.forall_mem_append.2 ⟨isLiteralChar_of_sign hsign, htext.isLiteralChar⟩
  | infinity hsign hletters =>
    exact List.forall_mem_append.2 ⟨isLiteralChar_of_sign hsign,
      fun c hc => isLiteralChar_of_isAlpha ((isAlpha_of_word (.inl hletters)).2 c hc)⟩
  | notNumber hsign hletters =>
    exact List.forall_mem_append.2 ⟨isLiteralChar_of_sign hsign,
      fun c hc => isLiteralChar_of_isAlpha ((isAlpha_of_word (.inr hletters)).2 c hc)⟩

lemma ne_of_isAlpha (h : c.isAlpha = true) :
    c.isDigit = false ∧ c ≠ '.' ∧ c ≠ '+' ∧ c ≠ '-' := by
  refine ⟨?_, ?_, ?_, ?_⟩
  · rw [← Bool.not_eq_true, isDigit_iff]
    rw [isAlpha_iff] at h
    omega
  all_goals
    rintro rfl
    revert h
    decide

/-- A word is read as one after its sign, and not as a decimal. -/
lemma read?_word (hsign : sign ∈ signs)
    (hletters : letters.map Char.toLower ∈ infinityWords ∨ letters.map Char.toLower = ['n', 'a', 'n']) :
    Literal.read? (sign ++ letters) = word? (sign == ['-']) (letters.map Char.toLower) := by
  obtain ⟨hne, halpha⟩ := isAlpha_of_word hletters
  obtain ⟨first, rest, rfl⟩ := List.exists_cons_of_ne_nil hne
  obtain ⟨hdigit, hpoint, hplus, hminus⟩ := ne_of_isAlpha (halpha first List.mem_cons_self)
  have hnone : unsignedDecimal? (first :: rest) = none := by
    refine Option.eq_none_iff_forall_ne_some.2 fun d hd => ?_
    obtain ⟨c, tail, htext, hc⟩ := (unsignedDecimal?_eq_some_iff.1 hd).head
    cases htext
    rcases hc with hc | hc
    · cases hdigit.symm.trans hc
    · exact hpoint hc
  rw [Literal.read?, splitSign_sign hsign (by simpa using ⟨hplus, hminus⟩)]
  dsimp only
  rw [hnone]

lemma read?_of_writtenAs (h : literal.WrittenAs text) : Literal.read? text = some literal := by
  cases h with
  | @decimal sign text d hsign htext =>
    have hhead : ∀ c ∈ text.head?, c ≠ '+' ∧ c ≠ '-' := by
      obtain ⟨first, rest, rfl, hfirst⟩ := htext.head
      rintro c hc
      cases hc
      rcases hfirst with hdigit | rfl
      · exact (digit_ne hdigit).2
      · decide
    rw [Literal.read?, splitSign_sign hsign hhead]
    dsimp only
    rw [unsignedDecimal?_eq_some_iff.2 htext]
  | infinity hsign hletters =>
    rw [read?_word hsign (.inl hletters), word?, if_pos]
    simpa [infinityWords] using hletters
  | notNumber hsign hletters =>
    rw [read?_word hsign (.inr hletters), hletters]
    rfl

lemma writtenAs_of_read? (h : Literal.read? text = some literal) : literal.WrittenAs text := by
  obtain ⟨sign, hsign, htext, hnegative⟩ := exists_sign text
  unfold Literal.read? at h
  dsimp only at h
  rw [htext]
  rw [hnegative] at h
  generalize (splitSign text).2 = rest at *
  cases hdecimal : unsignedDecimal? rest with
  | some d =>
    rw [hdecimal] at h
    cases h
    exact .decimal hsign (unsignedDecimal?_eq_some_iff.1 hdecimal)
  | none =>
    rw [hdecimal] at h
    dsimp only at h
    unfold word? at h
    split_ifs at h with hinfinity hnan
    · cases h
      exact .infinity hsign (by simpa [infinityWords] using hinfinity)
    · cases h
      exact .notNumber hsign (beq_iff_eq.1 hnan)

/-- A literal is read off a text exactly if the text is one of its forms. -/
theorem read?_eq_some_iff : Literal.read? text = some literal ↔ literal.WrittenAs text :=
  ⟨writtenAs_of_read?, read?_of_writtenAs⟩

lemma dropAsciiBlank_eq_self (h : ∀ c ∈ text, isAsciiBlank c = false) : dropAsciiBlank text = text := by
  cases text with
  | nil => rfl
  | cons c rest => simp [dropAsciiBlank, h c List.mem_cons_self]

lemma dropUnderscores?_eq_some (h : '_' ∉ text) (afterDigit : Bool) :
    dropUnderscores? afterDigit text = some text := by
  induction text generalizing afterDigit with
  | nil => rfl
  | cons c rest ih =>
    obtain ⟨hc, hrest⟩ := not_or.1 (mt List.mem_cons.2 h)
    rw [dropUnderscores?, if_neg (by simpa using Ne.symm hc), ih hrest]
    · rfl
    · exact fun d tail hd => absurd hd (Ne.symm hc)

lemma mapM_plainChar? (h : ∀ c ∈ text, plainChar? c = some c) : text.mapM plainChar? = some text := by
  induction text with
  | nil => rfl
  | cons c rest ih =>
    obtain ⟨hc, hrest⟩ := List.forall_mem_cons.1 h
    rw [List.mapM_cons, hc, ih hrest]
    rfl

lemma plain_of_isLiteralChar (h : isLiteralChar c = true) :
    plainChar? c = some c ∧ isAsciiBlank c = false ∧ c ≠ '_' := by
  have hrange : 43 ≤ c.toNat ∧ c.toNat ≤ 57 ∨ 65 ≤ c.toNat ∧ c.toNat ≤ 90 ∨
      97 ≤ c.toNat ∧ c.toNat ≤ 122 := by
    simp only [isLiteralChar, Char.isAlphanum, Bool.or_eq_true, isAlpha_iff, isDigit_iff,
      beq_iff_eq] at h
    rcases h with (((h | h) | rfl) | rfl) | rfl
    · omega
    · omega
    all_goals decide
  refine ⟨if_pos (by omega), ?_, ?_⟩
  · simp only [isAsciiBlank, Bool.or_eq_false_iff, Bool.and_eq_false_iff, beq_eq_false_iff_ne,
      decide_eq_false_iff_not]
    refine ⟨?_, .inr (by omega)⟩
    rintro rfl
    revert hrange
    decide
  · rintro rfl
    revert hrange
    decide

lemma mapM_plainChar?_eq_none (hc : c ∈ text) (h : plainChar? c = none) :
    text.mapM plainChar? = none := by
  induction text with
  | nil => cases hc
  | cons first rest ih =>
    rw [List.mapM_cons]
    rcases List.mem_cons.1 hc with rfl | hc
    · rw [h]
      rfl
    · rw [ih hc]
      cases plainChar? first <;> rfl

/-- A misspelt number cannot be read. -/
lemma readFloat?_misspelling (h : Misspelling text) : readFloat? text = none := by
  obtain ⟨sign, letters, rfl, -, -, c, hc, hforeign⟩ := h
  have hnone : plainChar? c = none := by
    rw [isForeignI, Bool.or_eq_true, beq_iff_eq, beq_iff_eq] at hforeign
    rw [← Char.ofNat_toNat c]
    rcases hforeign with hc | hc <;> rw [hc] <;> decide
  rw [readFloat?, plainNumber?, mapM_plainChar?_eq_none (List.mem_append_right sign hc) hnone]
  rfl

/-- The characters of literals are the same in the numbers that people write. -/
lemma readFloat?_of_isLiteralChar (h : ∀ c ∈ text, isLiteralChar c = true) :
    readFloat? text = (Literal.read? text).map Literal.value := by
  have hplain : plainNumber? text = some text := by
    have hblank : ∀ c ∈ text, isAsciiBlank c = false :=
      fun c hc => (plain_of_isLiteralChar (h c hc)).2.1
    have htrim : trimAsciiBlank text = text := by
      rw [trimAsciiBlank, dropAsciiBlank_eq_self hblank,
        dropAsciiBlank_eq_self fun c hc => hblank c (List.mem_reverse.1 hc), List.reverse_reverse]
    rw [plainNumber?, mapM_plainChar? fun c hc => (plain_of_isLiteralChar (h c hc)).1]
    refine (congrArg (dropUnderscores? false) htrim).trans (dropUnderscores?_eq_some ?_ false)
    exact fun hmem => (plain_of_isLiteralChar (h _ hmem)).2.2 rfl
  rw [readFloat?, hplain]
  change (Literal.read? text).bind _ = _
  cases Literal.read? text <;> rfl

end PostfixCalculator.Number
