import PostfixCalculator.Proofs.Number.Grammar

/-!
# Kinds of pieces

A piece is a number, a symbol, a misspelt number or unknown, and it is only one of these. What it is
decides what it is read as.
-/
namespace PostfixCalculator

open Number

/-- The symbols, each with the shape of its token. -/
def symbols : List (Char × Shape) := [
    ('(', .opening), (')', .closing), ('+', .operator .addition .left),
    ('-', .operator .subtraction .left), ('*', .operator .multiplication .left),
    ('/', .operator .division .left), ('^', .operator .exponentiation .left)]

def IsLiteral (text : List Char) : Prop := ∃ literal : Literal, literal.WrittenAs text

def IsSymbol (text : List Char) : Prop := ∃ c shape, (c, shape) ∈ symbols ∧ text = [c]

inductive PieceKind where
  | number
  | symbol
  | misspelling
  | unknown
  deriving DecidableEq, Repr

def PieceKind.Covers (text : List Char) : PieceKind → Prop
  | number => IsLiteral text
  | symbol => IsSymbol text
  | misspelling => Misspelling text
  | unknown => ¬ IsLiteral text ∧ ¬ IsSymbol text ∧ ¬ Misspelling text

/-- What a piece of each kind is read as. -/
inductive ReadAs (text : List Char) (offset : ℤ) : Except Fault Token → Prop
  | number {literal : Literal} (h : literal.WrittenAs text) :
      ReadAs text offset (.ok (.operand literal.value offset))
  | symbol {c : Char} {shape : Shape} (hmem : (c, shape) ∈ symbols) (htext : text = [c]) :
      ReadAs text offset (.ok ⟨shape, offset⟩)
  | misspelling (h : Misspelling text) : ReadAs text offset (.error (.unreadableNumber text))
  | unknown (h : PieceKind.unknown.Covers text) :
      ReadAs text offset (.error (Token.unknown text offset))

variable {text : List Char} {offset : ℤ} {result : Except Fault Token} {c : Char} {shape : Shape}

lemma ofPiece_symbol (h : (c, shape) ∈ symbols) (offset : ℤ) :
    Token.ofPiece [c] offset = .ok ⟨shape, offset⟩ ∧ ∀ value, shape ≠ .operand value := by
  simp only [symbols, List.mem_cons, Prod.mk.injEq, List.not_mem_nil, or_false] at h
  rcases h with ⟨rfl, rfl⟩ | ⟨rfl, rfl⟩ | ⟨rfl, rfl⟩ | ⟨rfl, rfl⟩ | ⟨rfl, rfl⟩ | ⟨rfl, rfl⟩ |
    ⟨rfl, rfl⟩ <;> exact ⟨rfl, nofun⟩

lemma Lexeme.exists_symbol (x : Lexeme) (hshape : ∀ value, x.shape ≠ .operand value) :
    ∃ c, (c, x.shape) ∈ symbols ∧ x.word = [c] := by
  cases x with
  | number word value reads => exact absurd rfl (hshape value)
  | operator op =>
    refine ⟨op.symbol, ?_, rfl⟩
    cases op <;> simp [symbols, shape, Operator.associativity, Operator.symbol]
  | opening => exact ⟨'(', by simp [symbols, shape], rfl⟩
  | closing => exact ⟨')', by simp [symbols, shape], rfl⟩

theorem readAs_ofPiece (text : List Char) (offset : ℤ) :
    ReadAs text offset (Token.ofPiece text offset) := by
  cases hread : Literal.read? text with
  | some literal =>
    rw [Lexeme.ofPiece_literal hread]
    exact .number (writtenAs_of_read? hread)
  | none =>
    rcases Lexeme.ofPiece_symbol hread offset with ⟨x, rfl, hshape, hx⟩ | ⟨fault, hfault⟩
    · obtain ⟨c, hmem, hword⟩ := x.exists_symbol hshape
      rw [hx]
      exact .symbol hmem hword
    · rw [hfault]
      rcases Lexeme.ofPiece_eq_error hfault with ⟨hmisspelt, rfl⟩ | ⟨hmisspelt, rfl⟩
      · exact .misspelling (isMisspelt_iff.1 hmisspelt)
      · refine .unknown ⟨?_, ?_, ?_⟩
        · rintro ⟨literal, hliteral⟩
          cases hread.symm.trans (read?_of_writtenAs hliteral)
        · rintro ⟨c, shape, hmem, rfl⟩
          cases hfault.symm.trans (ofPiece_symbol hmem offset).1
        · intro h
          cases hmisspelt.symm.trans (isMisspelt_iff.2 h)

theorem ReadAs.ofPiece_eq (h : ReadAs text offset result) : Token.ofPiece text offset = result := by
  cases h with
  | number hliteral => exact Lexeme.ofPiece_literal (read?_of_writtenAs hliteral) offset
  | symbol hmem htext => exact htext ▸ (ofPiece_symbol hmem offset).1
  | misspelling h => exact Token.ofPiece_misspelling h offset
  | unknown h =>
    obtain ⟨hliteral, hsymbol, hmisspelling⟩ := h
    have hreads := readAs_ofPiece text offset
    generalize Token.ofPiece text offset = result at hreads
    cases hreads with
    | number h => exact absurd ⟨_, h⟩ hliteral
    | symbol hmem htext => exact absurd ⟨_, _, hmem, htext⟩ hsymbol
    | misspelling h => exact absurd h hmisspelling
    | unknown => rfl

/-- The kind of a piece with this result. -/
def PieceKind.ofResult : Except Fault Token → PieceKind
  | .ok token => if token.isOperand then number else symbol
  | .error (.unreadableNumber _) => misspelling
  | .error _ => unknown

lemma PieceKind.ofResult_symbol (h : (c, shape) ∈ symbols) :
    ofResult (.ok ⟨shape, offset⟩) = symbol := by
  have hshape := (ofPiece_symbol h offset).2
  refine if_neg fun hoperand => ?_
  cases shape with
  | operand value => exact hshape value rfl
  | _ => cases hoperand

theorem covers_iff (kind : PieceKind) (text : List Char) (offset : ℤ) :
    kind.Covers text ↔ PieceKind.ofResult (Token.ofPiece text offset) = kind := by
  constructor
  · intro h
    cases kind with
    | number =>
      obtain ⟨literal, hliteral⟩ := h
      rw [(ReadAs.number hliteral).ofPiece_eq]
      rfl
    | symbol =>
      obtain ⟨c, shape, hmem, htext⟩ := h
      rw [(ReadAs.symbol hmem htext).ofPiece_eq, PieceKind.ofResult_symbol hmem]
    | misspelling =>
      rw [(ReadAs.misspelling h).ofPiece_eq]
      rfl
    | unknown =>
      rw [(ReadAs.unknown h).ofPiece_eq]
      rfl
  · rintro rfl
    have hreads := readAs_ofPiece text offset
    generalize Token.ofPiece text offset = result at hreads
    cases hreads with
    | number h => exact ⟨_, h⟩
    | symbol hmem htext =>
      rw [PieceKind.ofResult_symbol hmem]
      exact ⟨_, _, hmem, htext⟩
    | misspelling h => exact h
    | unknown h => exact h

/-- The characters that occur in numbers, symbols and misspelt numbers. -/
def isTokenChar (c : Char) : Bool :=
  isLiteralChar c || isForeignI c || c == '*' || c == '/' || c == '^' || c == '(' || c == ')'

lemma isTokenChar_of_isLiteralChar (h : isLiteralChar c = true) : isTokenChar c = true := by
  simp [isTokenChar, h]

lemma isTokenChar_of_misspelling (h : Misspelling text) : ∀ c ∈ text, isTokenChar c = true := by
  obtain ⟨sign, letters, rfl, hsign, hfolds, -⟩ := h
  refine List.forall_mem_append.2
    ⟨fun c hc => isTokenChar_of_isLiteralChar (isLiteralChar_of_sign hsign c hc), fun c hc => ?_⟩
  by_cases hforeign : isForeignI c = true
  · simp [isTokenChar, hforeign]
  · have hletter := (isAlpha_of_mem_word (.inl hfolds)).2 _ (List.mem_map_of_mem hc)
    rw [foldLetter, if_neg hforeign] at hletter
    exact isTokenChar_of_isLiteralChar (isLiteralChar_of_isAlpha (isAlpha_of_toLower hletter))

lemma isTokenChar_of_isSymbol (h : IsSymbol text) : ∀ c ∈ text, isTokenChar c = true := by
  obtain ⟨c, shape, hmem, rfl⟩ := h
  simp only [symbols, List.mem_cons, Prod.mk.injEq, List.not_mem_nil, or_false] at hmem
  rcases hmem with ⟨rfl, -⟩ | ⟨rfl, -⟩ | ⟨rfl, -⟩ | ⟨rfl, -⟩ | ⟨rfl, -⟩ | ⟨rfl, -⟩ | ⟨rfl, -⟩ <;>
    simp [isTokenChar, isLiteralChar]

/-- A character that occurs in no token makes a piece unknown. -/
lemma ofPiece_of_strange (hc : c ∈ text) (h : isTokenChar c = false) (offset : ℤ) :
    Token.ofPiece text offset = .error (Token.unknown text offset) := by
  have hnot : ¬ ∀ c ∈ text, isTokenChar c = true := fun hall => by
    cases h.symm.trans (hall c hc)
  refine (ReadAs.unknown ⟨?_, ?_, ?_⟩).ofPiece_eq
  · rintro ⟨literal, hliteral⟩
    exact hnot fun c hc => isTokenChar_of_isLiteralChar (hliteral.isLiteralChar c hc)
  · exact fun hsymbol => hnot (isTokenChar_of_isSymbol hsymbol)
  · exact fun hmisspelling => hnot (isTokenChar_of_misspelling hmisspelling)

/-- Every text is of exactly one kind, and the kind decides the result. A literal of the grammar is
read as its value, the same as when a number is read; a symbol as its token; a misspelt number
fails, as it does when a number is read; and any other text is reported as unknown, with its place.
The last is so for the text without characters and for every text with a character of no token. -/
theorem ofPiece_eq_iff (text : List Char) (offset : ℤ) :
    (∀ result, Token.ofPiece text offset = result ↔ ReadAs text offset result) ∧
    (∀ kind, PieceKind.ofResult (Token.ofPiece text offset) = kind ↔ kind.Covers text) ∧
    (∃! kind : PieceKind, kind.Covers text) ∧
    (∀ literal : Literal, literal.WrittenAs text → readFloat? text = some literal.value) ∧
    (Misspelling text → readFloat? text = none) ∧
    (text = [] ∨ (∃ c ∈ text, isTokenChar c = false) →
      Token.ofPiece text offset = .error (Token.unknown text offset)) := by
  refine ⟨fun result => ⟨?_, ReadAs.ofPiece_eq⟩, fun kind => (covers_iff kind text offset).symm, ?_,
    fun literal h => ?_, readFloat?_misspelling, fun h => ?_⟩
  · rintro rfl
    exact readAs_ofPiece text offset
  · refine ⟨_, (covers_iff _ text offset).2 rfl, fun kind h => ?_⟩
    exact ((covers_iff kind text offset).1 h).symm
  · rw [readFloat?_of_isLiteralChar h.isLiteralChar, read?_of_writtenAs h]
    rfl
  · rcases h with rfl | ⟨c, hc, hstrange⟩
    · rfl
    · exact ofPiece_of_strange hc hstrange offset

/-- A number with a sign, without digits before its point and with an exponent; a misspelt number;
and a number with a blank behind it. -/
theorem ofPiece_eq_iff_signed :
    (Literal.decimal true ⟨5, 2⟩).WrittenAs "-.5E+3".toList ∧
      readFloat? "-.5E+3".toList = some (Literal.decimal true ⟨5, 2⟩).value ∧
      Misspelling "+\u0130NF".toList ∧ readFloat? "+\u0130NF".toList = none ∧
      isTokenChar ' ' = false ∧
      Token.ofPiece "1 ".toList 7 = .error (Token.unknown "1 ".toList 7) := by
  have hliteral : (Literal.decimal true ⟨5, 2⟩).WrittenAs "-.5E+3".toList :=
    read?_eq_some_iff.1 (by decide)
  have hmisspelling : Misspelling "+\u0130NF".toList := isMisspelt_iff.1 (by decide)
  have hstrange : isTokenChar ' ' = false := by decide
  exact ⟨hliteral, (ofPiece_eq_iff _ 0).2.2.2.1 _ hliteral, hmisspelling,
    (ofPiece_eq_iff _ 0).2.2.2.2.1 hmisspelling, hstrange,
    (ofPiece_eq_iff _ 7).2.2.2.2.2 (.inr ⟨' ', by simp, hstrange⟩)⟩

end PostfixCalculator
