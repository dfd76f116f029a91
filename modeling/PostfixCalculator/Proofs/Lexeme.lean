import PostfixCalculator.Token
import PostfixCalculator.Proofs.Number.Spelling
import PostfixCalculator.Proofs.Text.Pieces

/-!
# Lexemes

A lexeme is a piece of text that is read as a token: a number, an operator symbol or a
bracket. No other piece is read as one, and the text of a token is a lexeme of its shape.
-/
namespace PostfixCalculator

open Text

/-- A piece that is read as an operand. -/
def IsNumber (word : List Char) (value : Float) : Prop :=
  Token.ofPiece word 0 = .ok (.operand value 0)

inductive Lexeme where
  | number (word : List Char) (value : Float) (reads : IsNumber word value)
  | operator (op : Operator)
  | opening
  | closing

namespace Lexeme

def word : Lexeme → List Char
  | number word _ _ => word
  | operator op => [op.symbol]
  | opening => ['(']
  | closing => [')']

def shape : Lexeme → Shape
  | number _ value _ => .operand value
  | operator op => .operator op op.associativity
  | opening => .opening
  | closing => .closing

lemma word_of_ofSymbol? {word : List Char} {op : Operator} (h : Operator.ofSymbol? word = some op) :
    [op.symbol] = word := by
  unfold Operator.ofSymbol? at h
  have hfound := List.find?_some h
  exact (beq_iff_eq.1 hfound).symm

lemma ofPiece_literal {word : List Char} {literal : Number.Literal}
    (h : Number.Literal.read? word = some literal) (offset : ℤ) :
    Token.ofPiece word offset = .ok (.operand literal.value offset) := by
  rw [Token.ofPiece, h]

lemma ofPiece_symbol {word : List Char} (h : Number.Literal.read? word = none) (offset : ℤ) :
    (∃ x : Lexeme, x.word = word ∧ (∀ v, x.shape ≠ .operand v) ∧
        Token.ofPiece word offset = .ok ⟨x.shape, offset⟩) ∨
      ∃ fault, Token.ofPiece word offset = .error fault := by
  rw [Token.ofPiece, h]
  dsimp only
  split_ifs with hmisspelt hopening hclosing
  · exact .inr ⟨_, rfl⟩
  · exact .inl ⟨opening, (beq_iff_eq.1 hopening).symm, by simp [shape], rfl⟩
  · exact .inl ⟨closing, (beq_iff_eq.1 hclosing).symm, by simp [shape], rfl⟩
  · rw [Token.ofSymbol]
    cases hop : Operator.ofSymbol? word with
    | none => exact .inr ⟨_, rfl⟩
    | some op => exact .inl ⟨operator op, word_of_ofSymbol? hop, by simp [shape], rfl⟩

lemma ofPiece_number {word : List Char} {value : Float} (h : IsNumber word value) (offset : ℤ) :
    Token.ofPiece word offset = .ok (.operand value offset) := by
  cases hread : Number.Literal.read? word with
  | some literal =>
    have hvalue := (ofPiece_literal hread 0).symm.trans h
    rw [ofPiece_literal hread]
    simp only [Except.ok.injEq, Token.operand, Token.mk.injEq, Shape.operand.injEq,
      and_true] at hvalue
    rw [hvalue]
  | none =>
    -- only literals are read as operands
    rcases ofPiece_symbol hread 0 with ⟨x, -, hshape, hx⟩ | ⟨fault, hfault⟩
    · have hvalue := hx.symm.trans h
      simp only [Except.ok.injEq, Token.operand, Token.mk.injEq, and_true] at hvalue
      exact absurd hvalue (hshape value)
    · exact absurd (hfault.symm.trans h) (by simp)

theorem ofPiece_word (x : Lexeme) (offset : ℤ) :
    Token.ofPiece x.word offset = .ok ⟨x.shape, offset⟩ := by
  cases x with
  | number word value reads => exact ofPiece_number reads offset
  | operator op => cases op <;> rfl
  | opening => rfl
  | closing => rfl

/-- Every token that is read comes from a lexeme. -/
theorem of_ofPiece {word : List Char} {offset : ℤ} {token : Token}
    (h : Token.ofPiece word offset = .ok token) :
    ∃ x : Lexeme, x.word = word ∧ token = ⟨x.shape, offset⟩ := by
  cases hread : Number.Literal.read? word with
  | some literal =>
    have htoken := (ofPiece_literal hread offset).symm.trans h
    exact ⟨number word literal.value (ofPiece_literal hread 0), rfl,
      (Except.ok.inj htoken).symm⟩
  | none =>
    rcases ofPiece_symbol hread offset with ⟨x, hword, -, hx⟩ | ⟨fault, hfault⟩
    · exact ⟨x, hword, (Except.ok.inj (hx.symm.trans h)).symm⟩
    · exact absurd (hfault.symm.trans h) (by simp)

/-- A piece that is no token is reported as unknown, unless it is a misspelt word for a
number. -/
lemma ofPiece_eq_error {word : List Char} {offset : ℤ} {fault : Fault}
    (h : Token.ofPiece word offset = .error fault) :
    (Number.isMisspelt word = true ∧ fault = .unreadableNumber word) ∨
      (Number.isMisspelt word = false ∧ fault = Token.unknown word offset) := by
  unfold Token.ofPiece Token.ofSymbol at h
  cases hread : Number.Literal.read? word with
  | some literal => rw [hread] at h; cases h
  | none =>
    rw [hread] at h
    dsimp only at h
    split_ifs at h with hmisspelt
    · cases h
      exact .inl ⟨hmisspelt, rfl⟩
    · cases hop : Operator.ofSymbol? word with
      | some op => rw [hop] at h; cases h
      | none =>
        rw [hop] at h
        cases h
        exact .inr ⟨by simpa using hmisspelt, rfl⟩

lemma isNumber_render (value : Float) : IsNumber (Number.render value) value := by
  obtain ⟨literal, hread, hvalue⟩ := Number.read?_render value
  rw [IsNumber, ofPiece_literal hread, hvalue]

/-- The lexeme in the form in which tokens are written. -/
def canonical : Lexeme → Lexeme
  | number _ value _ => number (Number.render value) value (isNumber_render value)
  | x => x

@[simp] lemma shape_canonical (x : Lexeme) : x.canonical.shape = x.shape := by cases x <;> rfl

lemma word_canonical (x : Lexeme) (offset : ℤ) :
    x.canonical.word = Token.render ⟨x.shape, offset⟩ := by cases x <;> rfl

lemma isWord_canonical (x : Lexeme) : IsWord x.canonical.word := by
  cases x with
  | number _ value _ => exact ⟨Number.render_ne_nil value, Number.isBlank_render value⟩
  | operator op =>
    cases op <;> exact ⟨by simp [canonical, word], Number.isBlank_of_all (by decide)⟩
  | opening => exact ⟨by simp [canonical, word], Number.isBlank_of_all (by decide)⟩
  | closing => exact ⟨by simp [canonical, word], Number.isBlank_of_all (by decide)⟩

end Lexeme

end PostfixCalculator
