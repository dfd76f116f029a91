import PostfixCalculator.Proofs.Serialization

/-!
# Written tokens

Reading inverts writing. Every token that can be read comes back from the text of its list
with its operator or the double it had, the sign of a zero included, and its place is the
length of all texts before it, each with the space that follows it. So the text in which the
tokens of a text are written is a normal form of it.
-/
namespace PostfixCalculator

open Text

variable {tokens : List Token} {token : Token}

/-- A token that a text can have: its operator groups as all tokens of the operator do. -/
def Token.Readable (token : Token) : Prop :=
  match token.shape with
  | .operator op grouping => grouping = op.associativity
  | .bare => False
  | _ => True

lemma Token.readable_iff : token.Readable ↔ token.shape ∈ Set.range Lexeme.shape := by
  unfold Readable
  constructor
  · intro h
    cases hshape : token.shape with
    | operand value => exact ⟨.number _ value (Lexeme.isNumber_render value), rfl⟩
    | operator op grouping =>
      rw [hshape] at h
      exact ⟨.operator op, congrArg (Shape.operator op) h.symm⟩
    | opening => exact ⟨.opening, rfl⟩
    | closing => exact ⟨.closing, rfl⟩
    | bare => rw [hshape] at h; exact h.elim
  · rintro ⟨x, hx⟩
    rw [← hx]
    cases x with
    | operator op => rfl
    | _ => trivial

/-- How far the texts of some tokens reach, each with a space behind it. -/
def extent (tokens : List Token) : ℕ := (tokens.map fun token => token.render.length + 1).sum

lemma getElem?_placedFrom (start : ℕ) (tokens : List Token) (i : ℕ) :
    (placedFrom start tokens)[i]? =
      tokens[i]?.map fun token => ⟨token.shape, ((start + extent (tokens.take i) : ℕ) : ℤ)⟩ := by
  induction tokens generalizing start i with
  | nil => rfl
  | cons token tokens ih =>
    cases i with
    | zero => rfl
    | succ i =>
      rw [placedFrom, List.getElem?_cons_succ, List.getElem?_cons_succ, ih, List.take_succ_cons]
      congr 3 with other
      simp [extent]
      omega

lemma length_placedFrom (start : ℕ) (tokens : List Token) :
    (placedFrom start tokens).length = tokens.length := by
  simpa using congrArg List.length (map_shape_placedFrom start tokens)

lemma renderTokens_congr {a b : List Token} (h : a.map Token.shape = b.map Token.shape) :
    renderTokens a = renderTokens b :=
  Alike.render_eq (a := ⟨a⟩) (b := ⟨b⟩) h

/-- Written tokens are read back at the places of their texts, and writing what was read from a
text yields a text that is written alike. -/
theorem tokenize_inverts_renderTokens :
    (∀ tokens : List Token, (∀ token ∈ tokens, token.Readable) →
      ∃ again, tokenize (renderTokens tokens) = Run.ofList again ∧
        again.length = tokens.length ∧
        ∀ i token, tokens[i]? = some token → ∃ found : Token, again[i]? = some found ∧
          (found == token) = true ∧ found.shape = token.shape ∧
          found.offset = extent (tokens.take i)) ∧
    ∀ text tokens, tokenize text = Run.ofList tokens →
      ∃ again, tokenize (renderTokens tokens) = Run.ofList again ∧
        renderTokens again = renderTokens tokens := by
  constructor
  · intro tokens hreadable
    have hshapes : ∀ token ∈ tokens, token.shape ∈ Set.range Lexeme.shape := fun token htoken =>
      Token.readable_iff.1 (hreadable token htoken)
    refine ⟨placedFrom 0 tokens, tokenize_of_reads (reads_renderTokens hshapes),
      length_placedFrom 0 tokens, fun i token htoken => ?_⟩
    have hfound := getElem?_placedFrom 0 tokens i
    rw [htoken, zero_add] at hfound
    exact ⟨_, hfound, Token.beq_iff.2 rfl, rfl, rfl⟩
  · intro text tokens htokens
    obtain ⟨again, hagain, hsame⟩ := tokenize_renderTokens (shape_of_tokenize htokens)
    exact ⟨again, hagain, renderTokens_congr hsame⟩

theorem tokenize_inverts_renderTokens_signed_zero :
    (∃ again, tokenize (renderTokens [.operand (-0.0) 7, .operator .exponentiation (-3),
        .closing 100]) = Run.ofList again ∧
      (∃ found, again[0]? = some found ∧ found.shape = .operand (-0.0) ∧ found.offset = 0) ∧
      ∃ found, again[2]? = some found ∧ found.shape = .closing ∧ found.offset = 7) ∧
    tokenize "( +  )".toList = Run.ofList [.opening 0, .operator .addition 2, .closing 5] ∧
      ∃ again, tokenize "( + )".toList = Run.ofList again ∧
        renderTokens again = "( + )".toList := by
  obtain ⟨hwritten, hread⟩ := tokenize_inverts_renderTokens
  have hpieces : pieces "( +  )".toList = [⟨['('], 0⟩, ⟨['+'], 2⟩, ⟨[')'], 5⟩] := by cbv
  have htokens : tokenize "( +  )".toList =
      Run.ofList [.opening 0, .operator .addition 2, .closing 5] := by
    rw [tokenize_eq_ofResults, hpieces]
    rfl
  have hzero : Number.render (-0.0) = "-0.0".toList := by decide
  refine ⟨?_, htokens, hread _ _ htokens⟩
  obtain ⟨again, hagain, -, hfound⟩ := hwritten
    [.operand (-0.0) 7, .operator .exponentiation (-3), .closing 100] (by
      simp [Token.Readable, Token.operand, Token.operator, Token.closing])
  obtain ⟨first, hfirst, -, hshape, hoffset⟩ := hfound 0 _ rfl
  obtain ⟨last, hlast, -, hshape', hoffset'⟩ := hfound 2 _ rfl
  refine ⟨again, hagain, ⟨first, hfirst, hshape, hoffset⟩, last, hlast, hshape', ?_⟩
  rw [hoffset']
  simp [extent, Token.render, Token.operand, Token.operator, hzero]

end PostfixCalculator
