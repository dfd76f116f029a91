import PostfixCalculator.Proofs.Diagnosis

/-!
# Misspelt numbers

A word for infinity passes for a number also when a foreign i stands in it, and then it
cannot be read as one. Nothing else makes a text fail with more than a problem of its
expression.
-/
namespace PostfixCalculator

open Text Postfix

namespace Number

variable {c : Char} {word sign letters : List Char}

def signs : List (List Char) := [[], ['+'], ['-']]

def infinityWords : List (List Char) :=
  [['i', 'n', 'f'], ['i', 'n', 'f', 'i', 'n', 'i', 't', 'y']]

/-- A word for infinity, with a sign or without, in which a foreign i stands for the letter
i. -/
def Misspelling (word : List Char) : Prop :=
  ∃ sign letters, word = sign ++ letters ∧ sign ∈ signs ∧
    letters.map foldLetter ∈ infinityWords ∧ ∃ c ∈ letters, isForeignI c = true

lemma lt_of_isForeignI (h : isForeignI c = true) : 127 < c.toNat := by
  rw [isForeignI, Bool.or_eq_true, beq_iff_eq, beq_iff_eq] at h
  omega

lemma toLower_of_isForeignI (h : isForeignI c = true) : c.toLower = c := by
  refine Char.toLower_eq_of_not_isUpper fun hupper => ?_
  have hle : c.toNat ≤ 90 := (of_decide_eq_true hupper).2
  have hlt := lt_of_isForeignI h
  omega

lemma foldLetter_of_isForeignI (h : isForeignI c = true) : foldLetter c = 'i' := if_pos h

lemma foldLetter_digit (h : c.isDigit = true) : foldLetter c = c := by
  rw [Char.isDigit, Bool.and_eq_true, decide_eq_true_eq, decide_eq_true_eq] at h
  have hle : c.toNat ≤ 57 := h.2
  have hforeign : ¬ isForeignI c = true := by
    intro hc
    have hlt := lt_of_isForeignI hc
    omega
  rw [foldLetter, if_neg hforeign]
  refine Char.toLower_eq_of_not_isUpper fun hupper => ?_
  have hge : 65 ≤ c.toNat := (of_decide_eq_true hupper).1
  omega

/-- What is read as the letter i starts neither a sign nor a decimal. -/
lemma ne_of_foldLetter (h : foldLetter c = 'i') :
    c.isDigit = false ∧ c ≠ '.' ∧ c ≠ '+' ∧ c ≠ '-' := by
  refine ⟨?_, ?_, ?_, ?_⟩
  · by_contra hdigit
    rw [Bool.not_eq_false] at hdigit
    rw [foldLetter_digit hdigit] at h
    subst h
    revert hdigit
    decide
  all_goals
    rintro rfl
    revert h
    decide

lemma exists_head_of_folds (h : letters.map foldLetter ∈ infinityWords) :
    ∃ c rest, letters = c :: rest ∧ foldLetter c = 'i' := by
  cases letters with
  | nil => exact absurd h (by decide)
  | cons c rest =>
    refine ⟨c, rest, rfl, ?_⟩
    rw [List.map_cons, infinityWords, List.mem_cons, List.mem_singleton] at h
    rcases h with h | h
    · exact (List.cons.inj h).1
    · exact (List.cons.inj h).1

lemma splitSign_cases (word : List Char) :
    ∃ sign ∈ signs, word = sign ++ (splitSign word).2 := by
  unfold splitSign
  split
  · exact ⟨['-'], by simp [signs], rfl⟩
  · exact ⟨['+'], by simp [signs], rfl⟩
  · exact ⟨[], by simp [signs], rfl⟩

lemma splitSign_append (hsign : sign ∈ signs) (h : foldLetter c = 'i')
    (rest : List Char) : (splitSign (sign ++ c :: rest)).2 = c :: rest := by
  obtain ⟨-, -, hplus, hminus⟩ := ne_of_foldLetter h
  simp only [signs, List.mem_cons, List.not_mem_nil, or_false] at hsign
  rcases hsign with rfl | rfl | rfl
  · rw [List.nil_append]
    unfold splitSign
    split
    · exact absurd (List.cons.inj ‹_›).1 hminus
    · exact absurd (List.cons.inj ‹_›).1 hplus
    · rfl
  · rfl
  · rfl

lemma isSome_word? (negative : Bool) (letters : List Char) : (word? negative letters).isSome = true ↔
    letters ∈ infinityWords ∨ letters = ['n', 'a', 'n'] := by
  unfold word? infinityWords
  split_ifs with hinf hnan <;> simp_all

theorem isMisspelt_iff : isMisspelt word = true ↔ Misspelling word := by
  rw [isMisspelt, Bool.and_eq_true, List.any_eq_true, isSome_word?]
  constructor
  · rintro ⟨⟨c, hc, hforeign⟩, hfolds | hnan⟩
    · obtain ⟨sign, hsign, hword⟩ := splitSign_cases word
      exact ⟨sign, _, hword, hsign, hfolds, c, hc, hforeign⟩
    · -- the word for what is not a number has no letter i
      have hmem := List.mem_map_of_mem (f := foldLetter) hc
      rw [hnan, foldLetter_of_isForeignI hforeign] at hmem
      exact absurd hmem (by decide)
  · rintro ⟨sign, letters, rfl, hsign, hfolds, c, hc, hforeign⟩
    obtain ⟨head, rest, rfl, hhead⟩ := exists_head_of_folds hfolds
    rw [splitSign_append hsign hhead rest]
    exact ⟨⟨c, hc, hforeign⟩, .inl hfolds⟩

lemma unsignedDecimal?_letter (h : foldLetter c = 'i') (rest : List Char) :
    unsignedDecimal? (c :: rest) = none := by
  obtain ⟨hdigit, hpoint, -, -⟩ := ne_of_foldLetter h
  have hspan : spanDigits (c :: rest) = ([], c :: rest) := by simp [spanDigits, hdigit]
  have hfraction : spanFraction (c :: rest) = ([], c :: rest) := by
    unfold spanFraction
    split
    · exact absurd (List.cons.inj ‹_›).1 hpoint
    · rfl
  rw [unsignedDecimal?, hspan]
  dsimp only
  rw [hfraction]
  rfl

theorem read?_of_misspelling (h : Misspelling word) : Literal.read? word = none := by
  obtain ⟨sign, letters, rfl, hsign, hfolds, c, hc, hforeign⟩ := h
  obtain ⟨head, rest, rfl, hhead⟩ := exists_head_of_folds hfolds
  have hsplit := splitSign_append hsign hhead rest
  unfold Literal.read?
  rcases hsign : splitSign (sign ++ head :: rest) with ⟨negative, unsigned⟩
  rw [hsign] at hsplit
  dsimp only at hsplit ⊢
  rw [hsplit, unsignedDecimal?_letter hhead]
  -- small letters leave the foreign i as it is, and no word for a number has one
  refine Option.not_isSome_iff_eq_none.1 fun hsome => ?_
  have hmem := List.mem_map_of_mem (f := Char.toLower) hc
  rw [toLower_of_isForeignI hforeign] at hmem
  have hascii : ∀ c ∈ (head :: rest).map Char.toLower, isForeignI c = false := by
    rcases (isSome_word? _ _).1 hsome with hinf | hnan
    · simp only [infinityWords, List.mem_cons, List.not_mem_nil, or_false] at hinf
      rcases hinf with hinf | hinf <;> rw [hinf] <;> simp [isForeignI]
    · rw [hnan]
      simp [isForeignI]
  rw [hascii c hmem] at hforeign
  cases hforeign

end Number

variable {α : Type} {arithmetic : Arithmetic} {text word : List Char} {tokens : List Token}
  {p : Piece} {fault : Fault} {result : Except Fault α}

lemma Token.ofPiece_misspelling (h : Number.Misspelling word) (offset : ℤ) :
    Token.ofPiece word offset = .error (.unreadableNumber word) := by
  rw [ofPiece, Number.read?_of_misspelling h]
  exact if_pos (Number.isMisspelt_iff.2 h)

/-- A piece that is neither a lexeme nor misspelt is reported with its text and its place. -/
lemma Token.ofPiece_unknown (hlexeme : ∀ x : Lexeme, x.word ≠ word)
    (h : ¬ Number.Misspelling word) (offset : ℤ) :
    Token.ofPiece word offset = .error (Token.unknown word offset) := by
  cases hpiece : Token.ofPiece word offset with
  | ok token =>
    obtain ⟨x, hx, -⟩ := Lexeme.of_ofPiece hpiece
    exact absurd hx (hlexeme x)
  | error fault =>
    rcases Lexeme.ofPiece_eq_error hpiece with ⟨hmisspelt, -⟩ | ⟨-, rfl⟩
    · exact absurd (Number.isMisspelt_iff.1 hmisspelt) h
    · rfl

/-- The result is a fault that is no problem of an expression. -/
def Escapes (result : Except Fault α) (fault : Fault) : Prop :=
  result = .error fault ∧ fault.isProblem = false

/-- The first piece of the text that is no token is misspelt. -/
def Trips (text : List Char) (fault : Fault) : Prop :=
  ∃ tokens p, StopsAt text tokens p fault ∧ Number.Misspelling p.text ∧
    fault = .unreadableNumber p.text

lemma StopsAt.isProblem_or_trips (h : StopsAt text tokens p fault) :
    fault.isProblem = true ∨ Trips text fault := by
  rcases Lexeme.ofPiece_eq_error h.refused with ⟨hmisspelt, hfault⟩ | ⟨-, rfl⟩
  · exact .inr ⟨tokens, p, h, Number.isMisspelt_iff.1 hmisspelt, hfault⟩
  · exact .inl rfl

/-- What reports the first piece that is no token, and otherwise problems only, fails with
more than a problem exactly on misspelt numbers. -/
lemma escapes_iff_trips (hstops : ∀ tokens p fault, StopsAt text tokens p fault → result = .error fault)
    (hreads : ∀ tokens fault, Reads text tokens → result = .error fault → fault.isProblem = true)
    (fault : Fault) : Escapes result fault ↔ Trips text fault := by
  constructor
  · rintro ⟨hresult, hescapes⟩
    rcases reads_or_stopsAt text with ⟨tokens, h⟩ | ⟨tokens, p, first, h⟩
    · rw [hreads tokens fault h hresult] at hescapes
      cases hescapes
    · cases hresult.symm.trans (hstops tokens p first h)
      refine h.isProblem_or_trips.resolve_left ?_
      rw [hescapes]
      exact Bool.false_ne_true
  · rintro ⟨tokens, p, h, -, rfl⟩
    exact ⟨hstops tokens p _ h, rfl⟩

lemma Judged.isProblem (h : Judged tokens (.error fault)) : fault.isProblem = true := by
  cases h <;> rfl

lemma isProblem_of_parse (h : Reads text tokens) (hparse : parse text = .error fault) :
    fault.isProblem = true := by
  have hjudged := judged_of_reads Operator.apply h
  rw [evaluateTextWith, hparse] at hjudged
  exact hjudged.isProblem

lemma isProblem_of_evaluateWith (hshaped : Shaped tokens)
    (h : evaluateWith arithmetic (Run.ofList tokens) = .error fault) : fault.isProblem = true := by
  rcases evaluateWith_cases arithmetic tokens with
    ⟨token, hmem, f, hrefuses, heval⟩ | ⟨values, last, -, -, heval⟩
  · cases heval.symm.trans h
    cases hrefuses with
    | bare shape => exact absurd shape (hshaped token hmem)
    | _ => rfl
  · rw [heval] at h
    rcases values with _ | ⟨value, _ | ⟨second, below⟩⟩ <;> cases h <;> rfl

/-- Reading and evaluating a text, in infix or in postfix order, fails with more than a problem
exactly when its first piece that is no token is misspelt. A misspelt piece cannot be read, and
every other piece that is no lexeme is reported as unknown, with its text and its place. -/
theorem escapes_iff (arithmetic : Arithmetic) (text : List Char) :
    (∀ fault, Escapes (parse text) fault ↔ Trips text fault) ∧
    (∀ fault, Escapes (evaluateTextWith arithmetic text) fault ↔ Trips text fault) ∧
    (∀ fault, Escapes (Expression.ofPostfix text) fault ↔ Trips text fault) ∧
    (∀ fault, Escapes (Expression.ofPostfix text >>= Expression.evaluateWith arithmetic) fault ↔
      Trips text fault) ∧
    (∀ word offset, Number.Misspelling word →
      Token.ofPiece word offset = .error (.unreadableNumber word)) ∧
    ∀ word offset, (∀ x : Lexeme, x.word ≠ word) → ¬ Number.Misspelling word →
      Token.ofPiece word offset = .error (Token.unknown word offset) := by
  refine ⟨?_, ?_, ?_, ?_, fun word offset h => Token.ofPiece_misspelling h offset,
    fun word offset hlexeme h => Token.ofPiece_unknown hlexeme h offset⟩
  · refine escapes_iff_trips (fun tokens p fault h => parse_of_stopsAt h) fun tokens fault h => ?_
    exact isProblem_of_parse h
  · refine escapes_iff_trips (fun tokens p fault h => evaluateTextWith_of_stopsAt arithmetic h)
      fun tokens fault h hfault => ?_
    exact (hfault ▸ judged_of_reads arithmetic h).isProblem
  · refine escapes_iff_trips (fun tokens p fault h => ofPostfix_of_stopsAt h)
      fun tokens fault h hfault => ?_
    rw [ofPostfix_of_reads h] at hfault
    cases hfault
  · refine escapes_iff_trips (fun tokens p fault h => ?_) fun tokens fault h hfault => ?_
    · rw [ofPostfix_of_stopsAt h]
      rfl
    · rw [ofPostfix_of_reads h] at hfault
      exact isProblem_of_evaluateWith h.shaped hfault

/-- A foreign i in a word for infinity is not reported as an unknown token. -/
theorem evaluateText_misspelt :
    evaluateText "\u0131nf".toList = .error (.unreadableNumber "\u0131nf".toList) ∧
      (Fault.unreadableNumber "\u0131nf".toList).isProblem = false := by
  have hpieces : pieces "\u0131nf".toList = [⟨"\u0131nf".toList, 0⟩] := by cbv
  refine ⟨?_, rfl⟩
  rw [evaluateText, evaluateTextWith, parse, tokenize_eq_ofResults, hpieces]
  rfl

end PostfixCalculator
