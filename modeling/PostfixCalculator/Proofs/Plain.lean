import PostfixCalculator.Batch.Evaluation
import PostfixCalculator.Proofs.Serialization

/-!
# Texts without escape characters

The characters of numbers, operators and brackets are printable, and no blank is an escape
character. So a text that is read as an expression holds none, and neither does a text that
is written for an expression or a value.
-/
namespace PostfixCalculator

open Text

/-- The text holds no escape character, with which every code starts. -/
def IsPlain (text : List Char) : Prop := '\x1b' ∉ text

instance (text : List Char) : Decidable (IsPlain text) := inferInstanceAs (Decidable (_ ∉ text))

variable {text word : List Char} {a b : List Char} {e : Expression}

lemma isPlain_append : IsPlain (a ++ b) ↔ IsPlain a ∧ IsPlain b := by
  simp [IsPlain, not_or]

lemma isPlain_cons {c : Char} : IsPlain (c :: a) ↔ c ≠ '\x1b' ∧ IsPlain a := by
  simp [IsPlain, not_or, eq_comm]

lemma isPlain_of_forall {p : Char → Bool} (hesc : p '\x1b' = false) (h : ∀ c ∈ text, p c = true) :
    IsPlain text := by
  intro hmem
  have htrue := h _ hmem
  rw [hesc] at htrue
  cases htrue

lemma isPlain_digits (h : ∀ c ∈ text, c.isDigit = true) : IsPlain text :=
  isPlain_of_forall (by decide) h

namespace Number

lemma isPlain_splitSign (h : IsPlain (splitSign text).2) : IsPlain text := by
  unfold splitSign at h
  split at h
  · exact isPlain_cons.2 ⟨by decide, h⟩
  · exact isPlain_cons.2 ⟨by decide, h⟩
  · exact h

lemma isPlain_spanDigits (h : IsPlain (spanDigits text).2) : IsPlain text := by
  have hdigits : IsPlain (text.takeWhile Char.isDigit) :=
    isPlain_digits fun c hc => List.mem_takeWhile_imp hc
  rw [← List.takeWhile_append_dropWhile (p := Char.isDigit) (l := text)]
  exact isPlain_append.2 ⟨hdigits, h⟩

lemma isPlain_spanFraction (h : IsPlain (spanFraction text).2) : IsPlain text := by
  unfold spanFraction at h
  split at h
  · exact isPlain_cons.2 ⟨by decide, isPlain_spanDigits h⟩
  · exact h

lemma isPlain_exponent {e : ℤ} (h : exponent? text = some e) : IsPlain text := by
  cases text with
  | nil => decide
  | cons mark rest =>
    unfold exponent? at h
    dsimp only at h
    obtain ⟨hparts, -⟩ := Option.ite_none_right_eq_some.1 h
    simp only [Bool.and_eq_true, Bool.or_eq_true, beq_iff_eq, List.all_eq_true] at hparts
    obtain ⟨⟨hmark, -⟩, hdigits⟩ := hparts
    refine isPlain_cons.2 ⟨?_, isPlain_splitSign (isPlain_digits hdigits)⟩
    rcases hmark with rfl | rfl <;> decide

lemma isPlain_unsignedDecimal {d : Decimal} (h : unsignedDecimal? text = some d) : IsPlain text := by
  unfold unsignedDecimal? at h
  dsimp only at h
  split_ifs at h
  obtain ⟨e, he, -⟩ := Option.map_eq_some_iff.1 h
  exact isPlain_spanDigits (isPlain_spanFraction (isPlain_exponent he))

lemma isPlain_word {negative : Bool} {literal : Literal}
    (h : word? negative text = some literal) : IsPlain text := by
  unfold word? at h
  split_ifs at h with hinfinite hnan
  · simp only [Bool.or_eq_true, beq_iff_eq] at hinfinite
    rcases hinfinite with rfl | rfl <;> decide
  · rw [beq_iff_eq.1 hnan]
    decide

lemma isPlain_literal {literal : Literal} (h : Literal.read? text = some literal) :
    IsPlain text := by
  unfold Literal.read? at h
  dsimp only at h
  refine isPlain_splitSign ?_
  split at h
  · next d hd => exact isPlain_unsignedDecimal hd
  · -- an escape character is its own small letter
    exact fun hmem => isPlain_word h (List.mem_map.2 ⟨_, hmem, by decide⟩)

theorem isPlain_render (x : Float) : IsPlain (render x) := by
  obtain ⟨literal, hread, -⟩ := read?_render x
  exact isPlain_literal hread

end Number

theorem Lexeme.isPlain_word (x : Lexeme) : IsPlain x.word := by
  cases x with
  | number word value reads =>
    change IsPlain word
    cases hread : Number.Literal.read? word with
    | some literal => exact Number.isPlain_literal hread
    | none =>
      rcases ofPiece_symbol hread 0 with ⟨x, -, hshape, hx⟩ | ⟨fault, hfault⟩
      · have htoken := Except.ok.inj (hx.symm.trans reads)
        exact absurd (congrArg Token.shape htoken) (hshape value)
      · cases hfault.symm.trans reads
  | operator op => cases op <;> decide
  | opening => decide
  | closing => decide

lemma Token.isPlain_render (t : Token) : IsPlain t.render := by
  obtain ⟨shape, offset⟩ := t
  cases shape with
  | operand value => exact Number.isPlain_render value
  | operator op grouping => exact (Lexeme.operator op).isPlain_word
  | opening => exact Lexeme.opening.isPlain_word
  | closing => exact Lexeme.closing.isPlain_word
  | bare => exact (by decide : IsPlain "Token()".toList)

lemma isPlain_intercalate {ws : List (List Char)} (h : ∀ w ∈ ws, IsPlain w) :
    IsPlain (List.intercalate [' '] ws) := by
  induction ws with
  | nil => decide
  | cons w ws ih =>
    obtain ⟨hw, hws⟩ := List.forall_mem_cons.1 h
    cases ws with
    | nil => simpa using hw
    | cons w' ws =>
      rw [List.intercalate_cons_cons]
      exact isPlain_append.2 ⟨isPlain_append.2 ⟨hw, by decide⟩, ih hws⟩

theorem Expression.isPlain_render (e : Expression) : IsPlain e.render := by
  refine isPlain_intercalate fun text htext => ?_
  obtain ⟨token, -, rfl⟩ := List.mem_map.1 htext
  exact token.isPlain_render

/-- A character that is not blank is in a piece. -/
lemma exists_piece_of_mem {c : Char} (hc : isBlank c = false) (start : ℕ) (h : c ∈ text) :
    ∃ p ∈ piecesFrom start text, c ∈ p.text := by
  fun_induction piecesFrom start text with
  | case1 start => cases h
  | case2 start x rest hx ih =>
    rcases List.mem_cons.1 h with rfl | h
    · cases hx.symm.trans hc
    · exact ih h
  | case3 start x rest hx ih =>
    rw [← firstRun_append_afterRun rest, ← List.cons_append] at h
    rcases List.mem_append.1 h with hfirst | hafter
    · exact ⟨_, List.mem_cons_self, hfirst⟩
    · obtain ⟨p, hp, hmem⟩ := ih hafter
      exact ⟨p, List.mem_cons_of_mem _ hp, hmem⟩

/-- A text that is read as an expression is plain. -/
theorem isPlain_of_readExpression {settings : Batch.Settings} {text : String}
    (h : Batch.readExpression settings text = .ok e) : IsPlain text.toList := by
  rcases reads_or_stopsAt text.toList with ⟨tokens, hreads⟩ | ⟨tokens, p, fault, hstops⟩
  · intro hmem
    obtain ⟨p, hp, hpiece⟩ := exists_piece_of_mem (by decide) 0 hmem
    have htoken : p.token ∈ (pieces text.toList).map Piece.token := List.mem_map_of_mem hp
    rw [hreads] at htoken
    obtain ⟨token, -, htoken⟩ := List.mem_map.1 htoken
    obtain ⟨x, hx, -⟩ := Lexeme.of_ofPiece htoken.symm
    exact x.isPlain_word (hx ▸ hpiece)
  · unfold Batch.readExpression at h
    rw [parse_of_stopsAt hstops, ofPostfix_of_stopsAt hstops, ite_self] at h
    cases h

/-- What is printed as a result is plain. -/
theorem isPlain_of_resultOf {settings : Batch.Settings} {result : String}
    (h : Batch.resultOf settings e = .ok result) : IsPlain result.toList := by
  unfold Batch.resultOf at h
  split_ifs at h
  · cases h
    rw [Expression.text, String.toList_ofList]
    exact e.isPlain_render
  · cases hvalue : e.evaluate with
    | error fault => rw [hvalue] at h; cases h
    | ok value =>
      rw [hvalue] at h
      cases h
      rw [Number.text, String.toList_ofList]
      exact Number.isPlain_render value

end PostfixCalculator
