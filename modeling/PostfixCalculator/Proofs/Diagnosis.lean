import PostfixCalculator.Proofs.Conservation
import PostfixCalculator.Proofs.Stopping

/-!
# Which problem is reported, and where

The stages of evaluation report in their order: a piece that is no token comes first, then
the lack of tokens, then brackets that do not balance, and at last what the numbers of
operands and operators leave open. A problem names the place of a piece that it speaks of.
-/
namespace PostfixCalculator

open Text Postfix

namespace Problem

inductive Kind where
  | unknown
  | unbalanced
  | insufficient
  | trailing
  | empty
  deriving DecidableEq, Repr

def kind : Problem → Kind
  | unknownToken _ => .unknown
  | unmatchedOpening | unmatchedClosing | bracketInPostfix _ => .unbalanced
  | missingOperands .. => .insufficient
  | extraOperands _ => .trailing
  | empty => .empty

/-- Whether the problem can be one of the piece. -/
def Concerns (word : List Char) : Problem → Prop
  | unknownToken text => word = text
  | unmatchedOpening => word = ['(']
  | unmatchedClosing => word = [')']
  | bracketInPostfix bracket => word = [bracket]
  | missingOperands op _ => word = [op.symbol]
  | extraOperands _ => (∃ value, IsNumber word value) ∨ ∃ op : Operator, word = [op.symbol]
  | empty => False

/-- The problem is one of the piece at the offset. Only the lack of tokens has no place. -/
def Located (text : List Char) (problem : Problem) : Option ℤ → Prop
  | none => problem = .empty
  | some i => ∃ word start, StandsAt text word start ∧ i = start ∧ problem.Concerns word

end Problem

variable {arithmetic : Arithmetic} {text : List Char} {tokens : List Token} {p : Piece}
  {fault : Fault} {result : Except Fault Float}

def Reports (kind : Problem.Kind) (result : Except Fault Float) : Prop :=
  ∃ problem offset, problem.kind = kind ∧ result = .error (.expression problem offset)

/-- What the brackets and the numbers of operands and operators tell about the result. -/
structure Verdict (tokens : List Token) (result : Except Fault Float) : Prop where
  nothing : tokens = [] → Reports .empty result
  unbalanced : ¬ Balanced tokens → Reports .unbalanced result
  onlyBrackets : Balanced tokens → operands tokens = 0 → operators tokens = 0 →
    Reports .empty result
  tooFew : Balanced tokens → 1 ≤ operators tokens → operands tokens ≤ operators tokens →
    Reports .insufficient result
  tooMany : Balanced tokens → operators tokens + 2 ≤ operands tokens →
    Reports .insufficient result ∨ Reports .trailing result
  oneMore : Balanced tokens → operands tokens = operators tokens + 1 →
    (∃ value, result = .ok value) ∨ Reports .insufficient result

/-- The results that tokens can have, with the token at which a problem is noticed. -/
inductive Judged (tokens : List Token) : Except Fault Float → Prop
  | closing {token : Token} (mem : token ∈ tokens) (shape : token.shape = .closing)
      (unbalanced : ¬ Balanced tokens) :
      Judged tokens (.error (.expression .unmatchedClosing (some token.offset)))
  | opening {token : Token} (mem : token ∈ tokens) (shape : token.shape = .opening)
      (unbalanced : ¬ Balanced tokens) :
      Judged tokens (.error (.expression .unmatchedOpening (some token.offset)))
  | insufficient {token : Token} {op : Operator} {grouping : Associativity} {available : ℕ}
      (mem : token ∈ tokens) (shape : token.shape = .operator op grouping)
      (balanced : Balanced tokens) :
      Judged tokens (.error (.expression (.missingOperands op available) (some token.offset)))
  | empty (balanced : Balanced tokens) (operands : operands tokens = 0)
      (operators : operators tokens = 0) : Judged tokens (.error (.expression .empty none))
  | value {value : Float} (balanced : Balanced tokens)
      (count : operands tokens = operators tokens + 1) : Judged tokens (.ok value)
  | trailing {token : Token} {values : List Float} (mem : token ∈ tokens)
      (bracket : token.isBracket = false) (balanced : Balanced tokens)
      (count : operators tokens + 2 ≤ operands tokens) :
      Judged tokens (.error (.expression (.extraOperands values) (some token.offset)))

lemma Verdict.of_unbalanced (hunbalanced : ¬ Balanced tokens) (h : Reports .unbalanced result) :
    Verdict tokens result where
  nothing hnil := absurd (hnil ▸ balanced_nil) hunbalanced
  unbalanced _ := h
  onlyBrackets hbalanced := absurd hbalanced hunbalanced
  tooFew hbalanced := absurd hbalanced hunbalanced
  tooMany hbalanced := absurd hbalanced hunbalanced
  oneMore hbalanced := absurd hbalanced hunbalanced

lemma Judged.verdict (h : Judged tokens result) : Verdict tokens result := by
  cases h with
  | closing mem shape unbalanced => exact .of_unbalanced unbalanced ⟨_, _, rfl, rfl⟩
  | opening mem shape unbalanced => exact .of_unbalanced unbalanced ⟨_, _, rfl, rfl⟩
  | @insufficient token op grouping available mem shape balanced =>
    have hreport : Reports .insufficient
        (.error (.expression (.missingOperands op available) (some token.offset))) :=
      ⟨_, _, rfl, rfl⟩
    have hpos : 0 < operators tokens :=
      List.countP_pos_iff.2 ⟨token, mem, by simp [Token.isOperator, shape]⟩
    exact {
      nothing := fun hnil => absurd (hnil ▸ mem) List.not_mem_nil
      unbalanced := fun hnot => absurd balanced hnot
      onlyBrackets := fun _ _ hzero => by omega
      tooFew := fun _ _ _ => hreport
      tooMany := fun _ _ => .inl hreport
      oneMore := fun _ _ => .inr hreport }
  | empty balanced hoperands hoperators =>
    exact {
      nothing := fun _ => ⟨_, _, rfl, rfl⟩
      unbalanced := fun hnot => absurd balanced hnot
      onlyBrackets := fun _ _ _ => ⟨_, _, rfl, rfl⟩
      tooFew := fun _ hone _ => by omega
      tooMany := fun _ hmany => by omega
      oneMore := fun _ hone => by omega }
  | @value value balanced count =>
    exact {
      nothing := by rintro rfl; cases count
      unbalanced := fun hnot => absurd balanced hnot
      onlyBrackets := fun _ hzero _ => by omega
      tooFew := fun _ _ hfew => by omega
      tooMany := fun _ hmany => by omega
      oneMore := fun _ _ => .inl ⟨value, rfl⟩ }
  | trailing mem bracket balanced count =>
    exact {
      nothing := fun hnil => absurd (hnil ▸ mem) List.not_mem_nil
      unbalanced := fun hnot => absurd balanced hnot
      onlyBrackets := fun _ hzero _ => by omega
      tooFew := fun _ _ hfew => by omega
      tooMany := fun _ _ => .inr ⟨_, _, rfl, rfl⟩
      oneMore := fun _ hone => by omega }

/-- Tokens without brackets are judged by the numbers of their operands and operators. -/
lemma judged_evaluateWith (arithmetic : Arithmetic) (hshaped : Shaped tokens)
    (hbalanced : Balanced tokens) {out : List Token}
    (hconvert : Infix.convert none [] tokens = Run.ofList out) :
    Judged tokens (evaluateWith arithmetic (Run.ofList out)) := by
  obtain ⟨hoperands, hoperators⟩ := Infix.convert_counts hconvert
  have hout : ∀ token ∈ out, token ∈ tokens ∧ token.isBracket = false := fun token htoken =>
    mem_unbracketed.1 ((Infix.convert_perm hconvert).mem_iff.1 htoken)
  rcases evaluateWith_cases arithmetic out with
    ⟨token, htoken, f, hrefuses, heval⟩ | ⟨values, last, hheight, hlast, heval⟩ <;> rw [heval]
  · obtain ⟨hmem, hbracket⟩ := hout token htoken
    cases hrefuses with
    | operator shape few => exact .insufficient hmem shape hbalanced
    | opening shape => simp [Token.isBracket, Token.isOpening, shape] at hbracket
    | closing shape => simp [Token.isBracket, Token.isClosing, shape] at hbracket
    | bare shape => exact absurd shape (hshaped token hmem)
  · rcases values with _ | ⟨value, _ | ⟨second, below⟩⟩
    · -- a token leaves a value, so there was none
      have hnil : out = [] := by_contra fun hne => (hlast hne).1 rfl
      rw [hnil] at hoperands hoperators
      exact .empty hbalanced hoperands.symm hoperators.symm
    · rw [List.length_singleton] at hheight
      exact .value hbalanced (by omega)
    · have hne : out ≠ [] := by
        rintro rfl
        cases hheight
      obtain ⟨-, token, htoken, rfl⟩ := hlast hne
      obtain ⟨hmem, hbracket⟩ := hout token htoken
      rw [List.length_cons, List.length_cons] at hheight
      exact .trailing hmem hbracket hbalanced (by omega)

theorem judged_evaluateRun (arithmetic : Arithmetic) (hshaped : Shaped tokens) :
    Judged tokens (evaluateRun arithmetic (Run.ofList tokens)) := by
  rw [evaluateRun_ofList]
  by_cases hcovered : Covered tokens
  · by_cases hlevel : openings tokens = closings tokens
    · have hbalanced : Balanced tokens := ⟨hcovered, hlevel⟩
      obtain ⟨out, hconvert⟩ := Infix.convert_of_balanced hbalanced hshaped
      rw [hconvert]
      exact judged_evaluateWith arithmetic hshaped hbalanced hconvert
    · obtain ⟨token, hmem, hshape, sent, hconvert⟩ :=
        Infix.convert_of_unclosed hcovered hlevel hshaped
      rw [hconvert]
      exact .opening hmem hshape fun hbalanced => hlevel hbalanced.2
  · obtain ⟨token, hmem, hshape, sent, hconvert⟩ :=
      Infix.convert_of_not_covered hcovered hshaped
    rw [hconvert none]
    exact .closing hmem hshape fun hbalanced => hcovered hbalanced.1

/-- A problem is located at a token of the text when it can be one of the lexemes of its
shape. -/
lemma Problem.located_of_mem {problem : Problem} {token : Token}
    (hmem : token ∈ (tokenize text).items)
    (h : ∀ x : Lexeme, x.shape = token.shape → problem.Concerns x.word) :
    problem.Located text (some token.offset) := by
  obtain ⟨p, hp, x, hword, rfl⟩ := exists_lexeme_of_mem_tokenize hmem
  exact ⟨p.text, p.start, mem_pieces_iff.1 hp, rfl, hword ▸ h x rfl⟩

lemma Judged.located {problem : Problem} {offset : Option ℤ} (h : Reads text tokens)
    (hjudged : Judged tokens (.error (.expression problem offset))) :
    problem.Located text offset := by
  have htokens : tokens = (tokenize text).items := by
    rw [tokenize_of_reads h]
    rfl
  cases hjudged with
  | closing mem shape unbalanced =>
    refine Problem.located_of_mem (htokens ▸ mem) fun x hx => ?_
    rw [shape] at hx
    cases x with
    | closing => rfl
    | _ => cases hx
  | opening mem shape unbalanced =>
    refine Problem.located_of_mem (htokens ▸ mem) fun x hx => ?_
    rw [shape] at hx
    cases x with
    | opening => rfl
    | _ => cases hx
  | insufficient mem shape balanced =>
    refine Problem.located_of_mem (htokens ▸ mem) fun x hx => ?_
    rw [shape] at hx
    cases x with
    | operator op => cases hx; rfl
    | _ => cases hx
  | @trailing token values mem bracket balanced count =>
    refine Problem.located_of_mem (htokens ▸ mem) fun x hx => ?_
    cases x with
    | number word value reads => exact .inl ⟨value, reads⟩
    | operator op => exact .inr ⟨op, rfl⟩
    | opening => simp [Token.isBracket, Token.isOpening, ← hx, Lexeme.shape] at bracket
    | closing => simp [Token.isBracket, Token.isClosing, ← hx, Lexeme.shape] at bracket
  | empty balanced hoperands hoperators => rfl

lemma shaped_tokenize (text : List Char) : Shaped (tokenize text).items := by
  intro token htoken
  obtain ⟨p, -, x, -, rfl⟩ := exists_lexeme_of_mem_tokenize htoken
  cases x <;> simp [Lexeme.shape]

lemma Reads.shaped (h : Reads text tokens) : Shaped tokens := by
  have hshaped := shaped_tokenize text
  rwa [tokenize_of_reads h] at hshaped

lemma StopsAt.shaped (h : StopsAt text tokens p fault) : Shaped tokens := by
  have hshaped := shaped_tokenize text
  rwa [tokenize_of_stopsAt h] at hshaped

lemma judged_of_reads (arithmetic : Arithmetic) (h : Reads text tokens) :
    Judged tokens (evaluateTextWith arithmetic text) := by
  rw [evaluateTextWith_eq, tokenize_of_reads h]
  exact judged_evaluateRun arithmetic h.shaped

lemma evaluateTextWith_of_stopsAt (arithmetic : Arithmetic) (h : StopsAt text tokens p fault) :
    evaluateTextWith arithmetic text = .error fault := by
  rw [evaluateTextWith, parse_of_stopsAt h]
  rfl

lemma StopsAt.located {problem : Problem} {offset : Option ℤ}
    (h : StopsAt text tokens p (.expression problem offset)) : problem.Located text offset := by
  rcases Lexeme.ofPiece_eq_error h.refused with ⟨-, hfault⟩ | ⟨-, hfault⟩
  · cases hfault
  · cases hfault
    exact ⟨p.text, p.start, mem_pieces_iff.1 h.mem, rfl, rfl⟩

/-- The first piece that is no token is reported, whatever else is wrong. Otherwise the
brackets and the numbers of operands and operators tell what is reported. Every problem names
the place of a piece it speaks of, but for the lack of tokens. -/
theorem evaluateTextWith_diagnosis (arithmetic : Arithmetic) (text : List Char) :
    ((∃ p ∈ pieces text, ∃ fault, p.token = .error fault) →
      ∃ tokens first fault, StopsAt text tokens first fault ∧
        evaluateTextWith arithmetic text = .error fault) ∧
    ((∀ p ∈ pieces text, ∃ token, p.token = .ok token) →
      ∃ tokens, Reads text tokens ∧ Verdict tokens (evaluateTextWith arithmetic text)) ∧
    ∀ problem offset, evaluateTextWith arithmetic text = .error (.expression problem offset) →
      problem.Located text offset := by
  rcases reads_or_stopsAt text with ⟨tokens, hreads⟩ | ⟨tokens, first, fault, hstops⟩
  · -- no piece is refused, and the tokens alone decide
    have hjudged := judged_of_reads arithmetic hreads
    refine ⟨?_, fun _ => ⟨tokens, hreads, hjudged.verdict⟩, fun problem offset hproblem => ?_⟩
    · rintro ⟨p, hp, fault, hfault⟩
      have hok : p.token ∈ (pieces text).map Piece.token := List.mem_map_of_mem hp
      rw [hreads, hfault] at hok
      simp at hok
    · rw [hproblem] at hjudged
      exact hjudged.located hreads
  · have hfault := evaluateTextWith_of_stopsAt arithmetic hstops
    refine ⟨fun _ => ⟨tokens, first, fault, hstops, hfault⟩, fun hall => ?_, ?_⟩
    · obtain ⟨token, htoken⟩ := hall first hstops.mem
      rw [hstops.refused] at htoken
      cases htoken
    · intro problem offset hproblem
      rw [hfault] at hproblem
      cases hproblem
      exact hstops.located

theorem evaluateTextWith_diagnosis_unclosed :
    Reads "+ (".toList [.operator .addition 0, .opening 2] ∧
      ¬ Balanced [.operator .addition 0, .opening 2] ∧
      Reports .unbalanced (evaluateText "+ (".toList) := by
  have hpieces : pieces "+ (".toList = [⟨['+'], 0⟩, ⟨['('], 2⟩] := by cbv
  have hreads : Reads "+ (".toList [.operator .addition 0, .opening 2] := by
    rw [Reads, hpieces]
    rfl
  have hunbalanced : ¬ Balanced [.operator .addition 0, .opening 2] := by decide
  have hall : ∀ p ∈ pieces "+ (".toList, ∃ token, p.token = .ok token := by
    rw [hpieces]
    simp only [List.forall_mem_cons, List.not_mem_nil, false_imp_iff, implies_true, and_true]
    exact ⟨⟨_, rfl⟩, ⟨_, rfl⟩⟩
  obtain ⟨tokens, htokens, hverdict⟩ :=
    (evaluateTextWith_diagnosis Operator.apply "+ (".toList).2.1 hall
  have hsame : tokens = [.operator .addition 0, .opening 2] :=
    List.map_injective_iff.2 (fun _ _ => Except.ok.inj) (htokens.symm.trans hreads)
  rw [hsame] at hverdict
  exact ⟨hreads, hunbalanced, hverdict.unbalanced hunbalanced⟩

end PostfixCalculator
