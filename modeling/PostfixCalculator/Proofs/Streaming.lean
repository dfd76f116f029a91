import PostfixCalculator.Proofs.Diagnosis

/-!
# Reading on the fly

Tokens can be brought into postfix order and evaluated while they are read. A stage that
fails then hides what a later piece of the text has wrong. This is the only difference to
stages that wait for each other.
-/
namespace PostfixCalculator

open Text Postfix

section Consuming

variable {α σ β : Type} (take : σ → α → Except Fault σ) (finish : σ → Except Fault β) (state : σ)

/-- What a consumer makes of a run: the fault that ended the run comes after its items. -/
def Run.consume (run : Run α) : Except Fault β :=
  run.items.foldlM take state >>= fun state =>
    match run.fault with
    | some fault => .error fault
    | none => finish state

lemma Run.exists_consume_fault {run : Run α} {fault : Fault} (h : run.fault = some fault) :
    ∃ f, run.consume take finish state = .error f := by
  rw [consume, h]
  cases run.items.foldlM take state with
  | error f => exact ⟨f, rfl⟩
  | ok state => exact ⟨fault, rfl⟩

lemma Run.consume_prepend (items : List α) (run : Run α) :
    (run.prepend items).consume take finish state =
      items.foldlM take state >>= fun state => run.consume take finish state := by
  unfold consume prepend
  rw [List.foldlM_append, bind_assoc]

lemma Run.consume_cons (item : α) (items : List α) (fault : Option Fault) :
    (⟨item :: items, fault⟩ : Run α).consume take finish state =
      take state item >>= fun state => (⟨items, fault⟩ : Run α).consume take finish state := by
  rw [consume, List.foldlM_cons, bind_assoc]
  rfl

/-- Reads tokens one at a time. The next one is read when the consumer is done with the last. -/
def Reader.consume (take : σ → Token → Except Fault σ) (finish : σ → Except Fault β) (state : σ)
    (r : Reader) : Except Fault β :=
  match _h : r.next.1 with
  | .ok (some token) => take state token >>= fun state => r.next.2.consume take finish state
  | .ok none => finish state
  | .error fault => .error fault
termination_by r.size
decreasing_by exact size_next_lt (by assumption)

theorem Reader.consume_eq (take : σ → Token → Except Fault σ) (finish : σ → Except Fault β)
    (state : σ) (r : Reader) :
    r.consume take finish state = r.readAll.1.consume take finish state := by
  -- both sides read the same token next, and a reader that has no more ends both alike
  fun_induction readAll r generalizing state with
  | case1 r token hnext run after hrun ih =>
    rw [consume, Run.prepend, List.singleton_append, Run.consume_cons]
    split
    · next other hother =>
      cases hnext.symm.trans hother
      refine bind_congr fun state => ?_
      rw [ih state, hrun]
    · next hother => cases hnext.symm.trans hother
    · next hother => cases hnext.symm.trans hother
  | case2 r hnext =>
    rw [consume]
    split
    · next hother => cases hnext.symm.trans hother
    · rfl
    · next hother => cases hnext.symm.trans hother
  | case3 r fault hnext =>
    rw [consume]
    split
    · next hother => cases hnext.symm.trans hother
    · next hother => cases hnext.symm.trans hother
    · next hother => cases hnext.symm.trans hother; rfl

end Consuming

variable {arithmetic : Arithmetic} {text : List Char} {tokens : List Token} {token : Token}
  {p : Piece} {fault : Fault}

/-- The values so far, and the place of the last token that was evaluated. -/
structure Machine where
  values : List Float
  last : ℤ

namespace Machine

def start : Machine := ⟨[], 0⟩

def take (arithmetic : Arithmetic) (m : Machine) (token : Token) : Except Fault Machine :=
  (step arithmetic m.values token).map (⟨·, token.offset⟩)

def finish (m : Machine) : Except Fault Float := result m.last m.values

theorem consume_eq (arithmetic : Arithmetic) (fault : Option Fault) (m : Machine)
    (tokens : List Token) :
    (⟨tokens, fault⟩ : Run Token).consume (take arithmetic) finish m =
      run arithmetic fault m.last m.values tokens := by
  induction tokens generalizing m with
  | nil => cases fault <;> rfl
  | cons token rest ih =>
    rw [Run.consume_cons, take, run]
    cases step arithmetic m.values token with
    | error f => rfl
    | ok after => exact ih ⟨after, token.offset⟩

end Machine

/-- The operators that wait, and the machine that evaluates what is sent on. -/
structure Pipeline where
  waiting : List Token
  machine : Machine

namespace Pipeline

def start : Pipeline := ⟨[], .start⟩

/-- All that the token sends on is evaluated before a fault of the token itself. -/
def take (arithmetic : Arithmetic) (s : Pipeline) (token : Token) : Except Fault Pipeline :=
  let (sent, after) := Infix.step s.waiting token
  sent.foldlM (Machine.take arithmetic) s.machine >>= fun machine => after.map (⟨·, machine⟩)

def finish (arithmetic : Arithmetic) (s : Pipeline) : Except Fault Float :=
  (Infix.drain s.waiting).consume (Machine.take arithmetic) Machine.finish s.machine

/-- Converting and evaluating token by token is converting all tokens and then evaluating what
was sent on. -/
theorem consume_eq (arithmetic : Arithmetic) (fault : Option Fault) (s : Pipeline)
    (tokens : List Token) :
    (⟨tokens, fault⟩ : Run Token).consume (take arithmetic) (finish arithmetic) s =
      (Infix.convert fault s.waiting tokens).consume (Machine.take arithmetic) Machine.finish
        s.machine := by
  induction tokens generalizing s with
  | nil => cases fault <;> rfl
  | cons token rest ih =>
    rw [Run.consume_cons, take, Infix.convert]
    rcases Infix.step s.waiting token with ⟨sent, f | after⟩
    · -- what was sent before the fault is evaluated on both sides
      rw [bind_assoc]
      rfl
    · rw [bind_assoc, Run.consume_prepend]
      exact bind_congr fun machine => ih ⟨after, machine⟩

end Pipeline

def streamPostfix (arithmetic : Arithmetic) (text : List Char) : Except Fault Float :=
  (Reader.ofText text).consume (Machine.take arithmetic) Machine.finish .start

def streamInfix (arithmetic : Arithmetic) (text : List Char) : Except Fault Float :=
  (Reader.ofText text).consume (Pipeline.take arithmetic) (Pipeline.finish arithmetic) .start

lemma evaluateWith_eq_consume (arithmetic : Arithmetic) (source : Run Token) :
    evaluateWith arithmetic source =
      source.consume (Machine.take arithmetic) Machine.finish .start :=
  (Machine.consume_eq arithmetic source.fault .start source.items).symm

lemma streamPostfix_eq (arithmetic : Arithmetic) (text : List Char) :
    streamPostfix arithmetic text = evaluateWith arithmetic (tokenize text) := by
  rw [streamPostfix, Reader.consume_eq, evaluateWith_eq_consume]
  rfl

lemma streamInfix_eq (arithmetic : Arithmetic) (text : List Char) :
    streamInfix arithmetic text = evaluateWith arithmetic (Infix.toPostfix (tokenize text)) := by
  rw [streamInfix, Reader.consume_eq, evaluateWith_eq_consume]
  exact Pipeline.consume_eq arithmetic _ .start _

lemma streamPostfix_of_reads (arithmetic : Arithmetic) (h : Reads text tokens) :
    streamPostfix arithmetic text =
      Expression.ofPostfix text >>= Expression.evaluateWith arithmetic := by
  rw [streamPostfix_eq, ofPostfix_of_reads h, tokenize_of_reads h]
  rfl

/-- Only a fault on the way to postfix order tells evaluation on the fly from evaluation
afterwards. -/
lemma streamInfix_of_reads (arithmetic : Arithmetic) (h : Reads text tokens) :
    ((Infix.convert none [] tokens).fault = none ∧
        streamInfix arithmetic text = evaluateTextWith arithmetic text) ∨
      ((∃ f, streamInfix arithmetic text = .error f) ∧
        ∃ f, evaluateTextWith arithmetic text = .error f) := by
  rw [streamInfix_eq, evaluateTextWith_eq, tokenize_of_reads h, evaluateRun_ofList]
  change (_ ∧ evaluateWith arithmetic (Infix.convert none [] tokens) = _) ∨
    ((∃ f, evaluateWith arithmetic (Infix.convert none [] tokens) = _) ∧ _)
  rcases hconvert : Infix.convert none [] tokens with ⟨out, _ | fault⟩
  · exact .inl ⟨rfl, rfl⟩
  · rw [evaluateWith_eq_consume]
    exact .inr ⟨Run.exists_consume_fault _ _ _ rfl, fault, rfl⟩

lemma stream_of_stopsAt (arithmetic : Arithmetic) (h : StopsAt text tokens p fault) :
    (∃ f, streamInfix arithmetic text = .error f) ∧ ∃ f, streamPostfix arithmetic text = .error f := by
  have hfault : (tokenize text).fault = some fault := by rw [tokenize_of_stopsAt h]
  unfold streamInfix streamPostfix
  rw [Reader.consume_eq, Reader.consume_eq]
  exact ⟨Run.exists_consume_fault _ _ _ hfault, Run.exists_consume_fault _ _ _ hfault⟩

lemma eq_ok_iff_of_error {α : Type} {a b : Except Fault α} (ha : ∃ f, a = .error f)
    (hb : ∃ f, b = .error f) (value : α) : a = .ok value ↔ b = .ok value := by
  obtain ⟨f, rfl⟩ := ha
  obtain ⟨g, rfl⟩ := hb
  simp

/-- Evaluation on the fly has the values of evaluation stage by stage. When all pieces are
tokens it has the faults too, in infix order only if the brackets balance. -/
theorem stream_agrees (arithmetic : Arithmetic) (text : List Char) :
    streamInfix arithmetic text = evaluateWith arithmetic (Infix.toPostfix (tokenize text)) ∧
    streamPostfix arithmetic text = evaluateWith arithmetic (tokenize text) ∧
    (∀ value, streamInfix arithmetic text = .ok value ↔
      evaluateTextWith arithmetic text = .ok value) ∧
    (∀ value, streamPostfix arithmetic text = .ok value ↔
      (Expression.ofPostfix text >>= Expression.evaluateWith arithmetic) = .ok value) ∧
    ∀ tokens, Reads text tokens →
      streamPostfix arithmetic text =
        (Expression.ofPostfix text >>= Expression.evaluateWith arithmetic) ∧
      (Balanced tokens → streamInfix arithmetic text = evaluateTextWith arithmetic text) := by
  refine ⟨streamInfix_eq arithmetic text, streamPostfix_eq arithmetic text, fun value => ?_,
    fun value => ?_, fun tokens h => ⟨streamPostfix_of_reads arithmetic h, fun hbalanced => ?_⟩⟩
  · rcases reads_or_stopsAt text with ⟨tokens, h⟩ | ⟨tokens, p, fault, h⟩
    · rcases streamInfix_of_reads arithmetic h with ⟨-, heq⟩ | ⟨hstream, hstaged⟩
      · rw [heq]
      · exact eq_ok_iff_of_error hstream hstaged value
    · exact eq_ok_iff_of_error (stream_of_stopsAt arithmetic h).1
        ⟨fault, evaluateTextWith_of_stopsAt arithmetic h⟩ value
  · rcases reads_or_stopsAt text with ⟨tokens, h⟩ | ⟨tokens, p, fault, h⟩
    · rw [streamPostfix_of_reads arithmetic h]
    · refine eq_ok_iff_of_error (stream_of_stopsAt arithmetic h).2 ⟨fault, ?_⟩ value
      rw [ofPostfix_of_stopsAt h]
      rfl
  · obtain ⟨out, hconvert⟩ := Infix.convert_of_balanced hbalanced h.shaped
    rw [streamInfix_eq, evaluateTextWith_eq, tokenize_of_reads h, evaluateRun_ofList, hconvert]
    change evaluateWith arithmetic (Infix.convert none [] tokens) = _
    rw [hconvert]
    rfl

theorem stream_agrees_missing_operands :
    Reads "+ ( )".toList [.operator .addition 0, .opening 2, .closing 4] ∧
      Balanced [.operator .addition 0, .opening 2, .closing 4] ∧
      streamInfix Operator.apply "+ ( )".toList = evaluateText "+ ( )".toList := by
  have hpieces : pieces "+ ( )".toList = [⟨['+'], 0⟩, ⟨['('], 2⟩, ⟨[')'], 4⟩] := by cbv
  have hreads : Reads "+ ( )".toList [.operator .addition 0, .opening 2, .closing 4] := by
    rw [Reads, hpieces]
    rfl
  have hbalanced : Balanced [.operator .addition 0, .opening 2, .closing 4] := by decide
  obtain ⟨-, -, -, -, hagree⟩ := stream_agrees Operator.apply "+ ( )".toList
  exact ⟨hreads, hbalanced, (hagree _ hreads).2 hbalanced⟩

lemma toPostfix_of_covered (h : StopsAt text tokens p fault) (hcovered : Covered tokens) :
    Expression.ofRun (Infix.toPostfix (tokenize text)) = .error fault := by
  have hfault := Infix.convert_fault_of_covered hcovered h.shaped fault
  rw [tokenize_of_stopsAt h, Expression.ofRun, Run.toExcept, Infix.toPostfix, hfault]
  rfl

lemma toPostfix_of_not_covered (h : StopsAt text tokens p fault) (hcovered : ¬ Covered tokens) :
    ∃ bracket ∈ tokens, bracket.shape = .closing ∧
      Expression.ofRun (Infix.toPostfix (tokenize text)) =
        .error (.expression .unmatchedClosing (some bracket.offset)) := by
  obtain ⟨bracket, hmem, hshape, sent, hconvert⟩ :=
    Infix.convert_of_not_covered hcovered h.shaped
  refine ⟨bracket, hmem, hshape, ?_⟩
  rw [tokenize_of_stopsAt h, Infix.toPostfix, hconvert]
  rfl

lemma StopsAt.ne_unmatchedClosing {offset : Option ℤ} (h : StopsAt text tokens p fault) :
    fault ≠ .expression .unmatchedClosing offset := by
  rintro rfl
  rcases Lexeme.ofPiece_eq_error h.refused with ⟨-, hfault⟩ | ⟨-, hfault⟩ <;> cases hfault

/-- Parsing agrees with conversion on the fly, but for a closing bracket without a partner
before the first piece that is no token: parsing reports the piece, and conversion on the fly
the bracket. -/
theorem parse_eq_toPostfix_iff (hne : pieces text ≠ []) :
    (parse text = Expression.ofRun (Infix.toPostfix (tokenize text)) ↔
      ∀ tokens p fault, StopsAt text tokens p fault → Covered tokens) ∧
    ∀ tokens p fault, StopsAt text tokens p fault → ¬ Covered tokens →
      parse text = .error fault ∧ ∃ bracket ∈ tokens, bracket.shape = .closing ∧
        Expression.ofRun (Infix.toPostfix (tokenize text)) =
          .error (.expression .unmatchedClosing (some bracket.offset)) := by
  refine ⟨⟨fun hparse tokens p fault h => ?_, fun hcovered => ?_⟩, fun tokens p fault h hcovered =>
    ⟨parse_of_stopsAt h, toPostfix_of_not_covered h hcovered⟩⟩
  · by_contra hcovered
    obtain ⟨bracket, -, -, hconvert⟩ := toPostfix_of_not_covered h hcovered
    rw [parse_of_stopsAt h, hconvert] at hparse
    exact h.ne_unmatchedClosing (Except.error.inj hparse)
  · rcases reads_or_stopsAt text with ⟨tokens, h⟩ | ⟨tokens, p, fault, h⟩
    · have htokens : tokens ≠ [] := by
        rintro rfl
        exact hne (List.map_eq_nil_iff.1 h)
      rw [parse_of_reads h htokens, tokenize_of_reads h]
      rfl
    · rw [parse_of_stopsAt h, toPostfix_of_covered h (hcovered tokens p fault h)]

theorem parse_eq_toPostfix_opened : pieces "( x".toList ≠ [] ∧
    parse "( x".toList = Expression.ofRun (Infix.toPostfix (tokenize "( x".toList)) := by
  have hpieces : pieces "( x".toList = [⟨['('], 0⟩, ⟨['x'], 2⟩] := by cbv
  have htokenize : tokenize "( x".toList = ⟨[.opening 0], some (Token.unknown ['x'] 2)⟩ := by
    rw [tokenize_eq_ofResults, hpieces]
    rfl
  have hne : pieces "( x".toList ≠ [] := by
    rw [hpieces]
    exact List.cons_ne_nil _ _
  refine ⟨hne, (parse_eq_toPostfix_iff hne).1.2 fun tokens p fault h => ?_⟩
  have hitems := congrArg Run.items (htokenize.symm.trans (tokenize_of_stopsAt h))
  rw [← show [.opening 0] = tokens from hitems]
  decide

/-- A closing bracket without a partner is reported on the fly only. -/
theorem parse_ne_toPostfix_closed :
    pieces ") x".toList ≠ [] ∧
      parse ") x".toList = .error (Token.unknown ['x'] 2) ∧
      Expression.ofRun (Infix.toPostfix (tokenize ") x".toList)) =
        .error (.expression .unmatchedClosing (some 0)) := by
  have hpieces : pieces ") x".toList = [⟨[')'], 0⟩, ⟨['x'], 2⟩] := by cbv
  rw [parse, tokenize_eq_ofResults, hpieces]
  exact ⟨by simp, rfl, rfl⟩

end PostfixCalculator
