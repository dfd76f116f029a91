import PostfixCalculator.Proofs.Conversion
import PostfixCalculator.Proofs.Stopping

/-!
# Postfix text of an expression

An expression that was read from infix text is read back from its postfix text, up to the
places of its tokens. The two are equal, hash and print alike, and have the same outcome.
-/
namespace PostfixCalculator

open Text

variable {text : List Char} {tokens : List Token} {a b e : Expression}

namespace Expression

/-- Tokens are compared one by one, and as many on both sides. -/
lemma beq_iff_keys : (a == b) = true ↔
    (a.tokens.map fun t => t.shape.key) = b.tokens.map fun t => t.shape.key := by
  obtain ⟨ts⟩ := a
  obtain ⟨us⟩ := b
  change (ts == us) = true ↔ (ts.map fun t => t.shape.key) = us.map fun t => t.shape.key
  induction ts generalizing us with
  | nil => cases us <;> simp
  | cons t ts ih =>
    cases us with
    | nil => simp
    | cons u us =>
      rw [List.cons_beq_cons, Bool.and_eq_true, ih, Token.beq_iff, List.map_cons, List.map_cons,
        List.cons.injEq]

/-- The hash of an expression is made of the hashes of its tokens. -/
lemma hash_eq_of_hashes (h : a.tokens.map hash = b.tokens.map hash) : hash a = hash b := by
  have hfold : ∀ e : Expression, hash e = (e.tokens.map hash).foldl mixHash 7 := by
    intro e
    rw [List.foldl_map]
    rfl
  rw [hfold, hfold, h]

lemma hash_eq_of_keys (h : (a.tokens.map fun t => t.shape.key) =
    b.tokens.map fun t => t.shape.key) : hash a = hash b := by
  apply hash_eq_of_hashes
  have hhashes := congrArg (List.map hash) h
  rwa [List.map_map, List.map_map] at hhashes

end Expression

/-- The same tokens at whatever places. -/
def Alike (a b : Expression) : Prop := a.tokens.map Token.shape = b.tokens.map Token.shape

namespace Alike

lemma keys_eq (h : Alike a b) :
    (a.tokens.map fun t => t.shape.key) = b.tokens.map fun t => t.shape.key := by
  have hkeys := congrArg (List.map Shape.key) h
  rwa [List.map_map, List.map_map] at hkeys

lemma beq (h : Alike a b) : (a == b) = true := Expression.beq_iff_keys.2 h.keys_eq

lemma hash_eq (h : Alike a b) : hash a = hash b := Expression.hash_eq_of_keys h.keys_eq

lemma size_eq (h : Alike a b) : a.size = b.size := by
  simpa [Alike, Expression.size] using congrArg List.length h

lemma render_eq (h : Alike a b) : a.render = b.render := by
  have hshapes : ∀ e : Expression, e.render = List.intercalate [' ']
      ((e.tokens.map Token.shape).map fun shape => Token.render ⟨shape, 0⟩) := by
    intro e
    rw [List.map_map]
    rfl
  rw [hshapes, hshapes, h]

lemma outcome_eq (h : Alike a b) (arithmetic : Postfix.Arithmetic) :
    outcome (a.evaluateWith arithmetic) = outcome (b.evaluateWith arithmetic) := by
  rw [← Expression.evaluateWith_unplaced, ← Expression.evaluateWith_unplaced,
    map_unplaced_eq_iff.2 h]

end Alike

/-- A text that is parsed has tokens, which are brought into postfix order. -/
lemma parse_eq_ok (h : parse text = .ok e) :
    ∃ tokens, tokenize text = Run.ofList tokens ∧
      Infix.convert none [] tokens = Run.ofList e.tokens := by
  unfold parse at h
  rcases htokens : tokenize text with ⟨tokens, _ | fault⟩ <;> rw [htokens] at h
  · refine ⟨tokens, rfl, ?_⟩
    cases tokens with
    | nil => cases h
    | cons token rest =>
      change (Infix.convert none [] (token :: rest)).toExcept.map _ = _ at h
      rcases hconvert : Infix.convert none [] (token :: rest) with ⟨items, _ | fault⟩ <;>
        rw [hconvert] at h <;> cases h
      rfl
  · cases h

lemma shape_of_tokenize (h : tokenize text = Run.ofList tokens) :
    ∀ token ∈ tokens, token.shape ∈ Set.range Lexeme.shape := by
  intro token htoken
  have hmem : token ∈ (tokenize text).items := by
    rw [h]
    exact htoken
  obtain ⟨-, -, x, -, rfl⟩ := exists_lexeme_of_mem_tokenize hmem
  exact ⟨x, rfl⟩

/-- The text of a token that can be read is a word, which is read as that token. -/
lemma ofPiece_render {token : Token} (h : token.shape ∈ Set.range Lexeme.shape) :
    IsWord token.render ∧
      ∀ offset, Token.ofPiece token.render offset = .ok ⟨token.shape, offset⟩ := by
  obtain ⟨x, hx⟩ := h
  have hword : x.canonical.word = token.render := by rw [x.word_canonical token.offset, hx]
  refine ⟨hword ▸ x.isWord_canonical, fun offset => ?_⟩
  rw [← hword, x.canonical.ofPiece_word, x.shape_canonical, hx]

/-- Tokens at the places where their texts stand with one space between each two of them. -/
def placedFrom (start : ℕ) : List Token → List Token
  | [] => []
  | token :: tokens => ⟨token.shape, start⟩ :: placedFrom (start + token.render.length + 1) tokens

lemma map_shape_placedFrom (start : ℕ) (tokens : List Token) :
    (placedFrom start tokens).map Token.shape = tokens.map Token.shape := by
  induction tokens generalizing start with
  | nil => rfl
  | cons token tokens ih => rw [placedFrom, List.map_cons, List.map_cons, ih]

lemma map_token_inRow (h : ∀ token ∈ tokens, token.shape ∈ Set.range Lexeme.shape) (start : ℕ) :
    (inRow start (tokens.map Token.render)).map Piece.token =
      (placedFrom start tokens).map .ok := by
  induction tokens generalizing start with
  | nil => rfl
  | cons token tokens ih =>
    obtain ⟨htoken, htokens⟩ := List.forall_mem_cons.1 h
    rw [List.map_cons, inRow, placedFrom, List.map_cons, List.map_cons, ih htokens]
    exact congrArg (· :: _) ((ofPiece_render htoken).2 start)

/-- Written tokens are read back, each at the place of its text. -/
theorem reads_renderTokens (h : ∀ token ∈ tokens, token.shape ∈ Set.range Lexeme.shape) :
    Reads (renderTokens tokens) (placedFrom 0 tokens) := by
  have hwords : ∀ word ∈ tokens.map Token.render, IsWord word := by
    intro word hword
    obtain ⟨token, htoken, rfl⟩ := List.mem_map.1 hword
    exact (ofPiece_render (h token htoken)).1
  rw [Reads, renderTokens, pieces, piecesFrom_intercalate hwords, map_token_inRow h]

theorem tokenize_renderTokens (h : ∀ token ∈ tokens, token.shape ∈ Set.range Lexeme.shape) :
    ∃ again, tokenize (renderTokens tokens) = Run.ofList again ∧
      again.map Token.shape = tokens.map Token.shape :=
  ⟨placedFrom 0 tokens, tokenize_of_reads (reads_renderTokens h), map_shape_placedFrom 0 tokens⟩

/-- The postfix text of an expression that was read is read as an expression of the same
tokens. -/
theorem ofPostfix_render (arithmetic : Postfix.Arithmetic) (h : parse text = .ok e) :
    ∃ again, Expression.ofPostfix e.render = .ok again ∧ (again == e) = true ∧
      hash again = hash e ∧ again.size = e.size ∧ again.render = e.render ∧
      outcome (again.evaluateWith arithmetic) = outcome (e.evaluateWith arithmetic) := by
  obtain ⟨tokens, htokens, hconvert⟩ := parse_eq_ok h
  have hshapes : ∀ token ∈ e.tokens, token.shape ∈ Set.range Lexeme.shape := by
    intro token htoken
    exact shape_of_tokenize htokens token (Infix.mem_of_convert hconvert htoken)
  obtain ⟨again, hagain, hsame⟩ := tokenize_renderTokens hshapes
  have halike : Alike ⟨again⟩ e := hsame
  refine ⟨⟨again⟩, ?_, halike.beq, halike.hash_eq, halike.size_eq, halike.render_eq,
    halike.outcome_eq arithmetic⟩
  rw [Expression.ofPostfix, Expression.render, hagain]
  rfl

theorem ofPostfix_render_missing_operand :
    parse "* ( 2 )".toList = .ok ⟨[.operand 2 4, .operator .multiplication 0]⟩ ∧
      ∃ again, Expression.ofPostfix
          (Expression.render ⟨[.operand 2 4, .operator .multiplication 0]⟩) = .ok again ∧
        (again == ⟨[.operand 2 4, .operator .multiplication 0]⟩) = true ∧
        outcome again.evaluate =
          .error (.expression (.missingOperands .multiplication 1) (some 0)) := by
  have hpieces : pieces "* ( 2 )".toList =
      [⟨['*'], 0⟩, ⟨['('], 2⟩, ⟨['2'], 4⟩, ⟨[')'], 6⟩] := by cbv
  have hparse : parse "* ( 2 )".toList = .ok ⟨[.operand 2 4, .operator .multiplication 0]⟩ := by
    rw [parse, tokenize_eq_ofResults, hpieces]
    rfl
  obtain ⟨again, hagain, hbeq, -, -, -, houtcome⟩ := ofPostfix_render Operator.apply hparse
  exact ⟨hparse, again, hagain, hbeq, houtcome⟩

end PostfixCalculator
