import PostfixCalculator.Proofs.Reading

/-!
# How far a text is read

A text is read to its end when all of its pieces are tokens, and otherwise up to the first
piece that is none. What lies behind that piece has no influence, and its fault is the one
that parsing reports.
-/
namespace PostfixCalculator

open Text

variable {text : List Char} {tokens : List Token} {token : Token} {p : Piece} {fault : Fault}

/-- All pieces of the text are tokens. -/
def Reads (text : List Char) (tokens : List Token) : Prop :=
  (pieces text).map Piece.token = tokens.map .ok

/-- The pieces before `p` are tokens, and `p` is none. -/
structure StopsAt (text : List Char) (tokens : List Token) (p : Piece) (fault : Fault) : Prop where
  read : ∃ before after, pieces text = before ++ p :: after ∧
    before.map Piece.token = tokens.map .ok
  refused : p.token = .error fault

theorem tokenize_of_reads (h : Reads text tokens) : tokenize text = Run.ofList tokens := by
  rw [tokenize_eq_ofResults, h, Run.ofResults_map_ok]

theorem tokenize_of_stopsAt (h : StopsAt text tokens p fault) :
    tokenize text = ⟨tokens, some fault⟩ := by
  obtain ⟨⟨before, after, hpieces, hbefore⟩, hrefused⟩ := h
  rw [tokenize_eq_ofResults, hpieces, List.map_append, Run.ofResults_append, hbefore,
    Run.ofResults_map_ok, List.map_cons, hrefused]
  simp [Run.andThen, Run.ofList, Run.ofResults, Run.failed, Run.prepend]

lemma StopsAt.mem (h : StopsAt text tokens p fault) : p ∈ pieces text := by
  obtain ⟨⟨before, after, hpieces, -⟩, -⟩ := h
  rw [hpieces]
  exact List.mem_append_right _ List.mem_cons_self

lemma map_token_or_refused (ps : List Piece) :
    (∃ tokens : List Token, ps.map Piece.token = tokens.map .ok) ∨
      ∃ (before : List Piece) (p : Piece) (after : List Piece) (tokens : List Token)
        (fault : Fault), ps = before ++ p :: after ∧
          before.map Piece.token = tokens.map .ok ∧ p.token = .error fault := by
  induction ps with
  | nil => exact .inl ⟨[], rfl⟩
  | cons q ps ih =>
    cases hq : q.token with
    | error fault => exact .inr ⟨[], q, ps, [], fault, rfl, rfl, hq⟩
    | ok token =>
      rcases ih with ⟨tokens, hps⟩ | ⟨before, p, after, tokens, fault, rfl, hbefore, hp⟩
      · exact .inl ⟨token :: tokens, by rw [List.map_cons, hq, hps, List.map_cons]⟩
      · refine .inr ⟨q :: before, p, after, token :: tokens, fault, rfl, ?_, hp⟩
        rw [List.map_cons, hq, hbefore, List.map_cons]

/-- Every text is read to its end or stops at a piece. -/
theorem reads_or_stopsAt (text : List Char) :
    (∃ tokens, Reads text tokens) ∨ ∃ tokens p fault, StopsAt text tokens p fault := by
  rcases map_token_or_refused (pieces text) with
    hreads | ⟨before, p, after, tokens, fault, hpieces, hbefore, hp⟩
  · exact .inl hreads
  · exact .inr ⟨tokens, p, fault, ⟨before, after, hpieces, hbefore⟩, hp⟩

lemma Run.mem_of_mem_ofResults {α : Type} {item : α} {results : List (Except Fault α)}
    (h : item ∈ (ofResults results).items) : .ok item ∈ results := by
  induction results with
  | nil => cases h
  | cons result results ih =>
    cases result with
    | error fault => cases h
    | ok first =>
      rcases List.mem_cons.1 h with rfl | hrest
      · exact List.mem_cons_self
      · exact List.mem_cons_of_mem _ (ih hrest)

/-- A token of a text has the shape of the lexeme that stands at its offset. -/
theorem exists_lexeme_of_mem_tokenize (h : token ∈ (tokenize text).items) :
    ∃ p ∈ pieces text, ∃ x : Lexeme, x.word = p.text ∧ token = ⟨x.shape, p.start⟩ := by
  rw [tokenize_eq_ofResults] at h
  obtain ⟨p, hp, htoken⟩ := List.mem_map.1 (Run.mem_of_mem_ofResults h)
  exact ⟨p, hp, Lexeme.of_ofPiece htoken⟩

lemma parse_of_stopsAt (h : StopsAt text tokens p fault) : parse text = .error fault := by
  rw [parse, tokenize_of_stopsAt h]
  rfl

lemma parse_of_reads (h : Reads text tokens) (hne : tokens ≠ []) : parse text = arrange tokens := by
  rw [parse, tokenize_of_reads h]
  cases tokens with
  | nil => exact absurd rfl hne
  | cons token tokens => rfl

lemma ofPostfix_of_stopsAt (h : StopsAt text tokens p fault) :
    Expression.ofPostfix text = .error fault := by
  rw [Expression.ofPostfix, tokenize_of_stopsAt h]
  rfl

lemma ofPostfix_of_reads (h : Reads text tokens) : Expression.ofPostfix text = .ok ⟨tokens⟩ := by
  rw [Expression.ofPostfix, tokenize_of_reads h]
  rfl

end PostfixCalculator
