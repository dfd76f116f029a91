import PostfixCalculator.Proofs.Places

/-!
# The stack machine over tokens

A run of the stack machine takes its tokens one after the other and then reads the result
off the stack. What lies below the values that some tokens use stays as it is. The height of
the stack tells how many more operands than operators there were.
-/
namespace PostfixCalculator

def operands (tokens : List Token) : ℕ := tokens.countP Token.isOperand

def operators (tokens : List Token) : ℕ := tokens.countP Token.isOperator

namespace Postfix

def exec (arithmetic : Arithmetic) (values : List Float) (tokens : List Token) :
    Except Fault (List Float) := tokens.foldlM (step arithmetic) values

variable {arithmetic : Arithmetic} {values after : List Float} {tokens : List Token}
  {token : Token} {value : Float} {last : ℤ} {f : Fault}

lemma exec_append (arithmetic : Arithmetic) (values : List Float) (a b : List Token) :
    exec arithmetic values (a ++ b) =
      exec arithmetic values a >>= fun after => exec arithmetic after b := List.foldlM_append

lemma exec_cons (arithmetic : Arithmetic) (values : List Float) (token : Token)
    (rest : List Token) :
    exec arithmetic values (token :: rest) =
      step arithmetic values token >>= fun after => exec arithmetic after rest :=
  List.foldlM_cons

/-- The result is read at the place of the last token. -/
theorem run_eq_exec (arithmetic : Arithmetic) (last : ℤ) (values : List Float)
    (tokens : List Token) :
    run arithmetic none last values tokens = exec arithmetic values tokens >>=
      result (tokens.foldl (fun _ token => token.offset) last) := by
  induction tokens generalizing last values with
  | nil => rfl
  | cons token rest ih =>
    rw [run, exec_cons, List.foldl_cons]
    cases step arithmetic values token with
    | error f => rfl
    | ok after => exact ih token.offset after

lemma result_eq_ok : result last values = .ok value ↔ values = [value] := by
  rcases values with _ | ⟨top, _ | ⟨next, below⟩⟩ <;> simp [result]

theorem evaluateWith_eq_ok :
    evaluateWith arithmetic (Run.ofList tokens) = .ok value ↔
      exec arithmetic [] tokens = .ok [value] := by
  rw [evaluateWith, Run.ofList, run_eq_exec]
  cases exec arithmetic [] tokens with
  | error f =>
    constructor
    · intro h; cases h
    · intro h; cases h
  | ok after =>
    rw [Except.ok.injEq]
    exact result_eq_ok

theorem outcome_evaluateWith (arithmetic : Arithmetic) (tokens : List Token) :
    outcome (evaluateWith arithmetic (Run.ofList tokens)) =
      outcome (exec arithmetic [] tokens) >>= result 0 := by
  rw [evaluateWith, Run.ofList, run_eq_exec]
  cases exec arithmetic [] tokens with
  | error f => rfl
  | ok after => exact (result_unplaced _ after).symm

lemma step_append (h : step arithmetic values token = .ok after) (below : List Float) :
    step arithmetic (values ++ below) token = .ok (after ++ below) := by
  unfold step at h ⊢
  cases hshape : token.shape with
  | operand value => rw [hshape] at h; cases h; rfl
  | operator op grouping =>
    rw [hshape] at h
    rcases values with _ | ⟨rhs, _ | ⟨lhs, deeper⟩⟩
    · cases h
    · cases h
    · cases h; rfl
  | _ => rw [hshape] at h; cases h

theorem exec_append_values (h : exec arithmetic values tokens = .ok after) (below : List Float) :
    exec arithmetic (values ++ below) tokens = .ok (after ++ below) := by
  induction tokens generalizing values with
  | nil => cases h; rfl
  | cons token rest ih =>
    rw [exec_cons] at h ⊢
    cases hstep : step arithmetic values token with
    | error f => rw [hstep] at h; cases h
    | ok next =>
      rw [hstep] at h
      rw [step_append hstep]
      exact ih h

/-- Tokens that evaluate alone act on every stack as an operand of their value. -/
lemma exec_eq_operand (h : exec arithmetic [] tokens = .ok [value]) (values : List Float)
    (offset : ℤ) :
    exec arithmetic values tokens = exec arithmetic values [.operand value offset] :=
  exec_append_values h values

/-- Why a token cannot be evaluated. -/
inductive Refuses (token : Token) : Fault → Prop
  | operator {op : Operator} {grouping : Associativity} (shape : token.shape = .operator op grouping)
      {available : ℕ} (few : available < 2) :
      Refuses token (.expression (.missingOperands op available) (some token.offset))
  | opening (shape : token.shape = .opening) :
      Refuses token (.expression (.bracketInPostfix '(') (some token.offset))
  | closing (shape : token.shape = .closing) :
      Refuses token (.expression (.bracketInPostfix ')') (some token.offset))
  | bare (shape : token.shape = .bare) : Refuses token .shapelessToken

lemma refuses_of_step (h : step arithmetic values token = .error f) : Refuses token f := by
  unfold step at h
  cases hshape : token.shape with
  | operand value => rw [hshape] at h; cases h
  | opening => rw [hshape] at h; cases h; exact .opening hshape
  | closing => rw [hshape] at h; cases h; exact .closing hshape
  | bare => rw [hshape] at h; cases h; exact .bare hshape
  | operator op grouping =>
    rw [hshape] at h
    rcases values with _ | ⟨rhs, _ | ⟨lhs, below⟩⟩
    · cases h; exact .operator hshape (by simp)
    · cases h; exact .operator hshape (by simp)
    · cases h

/-- An operand adds a value, and an operator takes two values for one. -/
lemma step_height (h : step arithmetic values token = .ok after) :
    after.length + operators [token] = values.length + operands [token] ∧ after ≠ [] := by
  unfold step at h
  unfold operators operands Token.isOperator Token.isOperand
  cases hshape : token.shape with
  | operand value =>
    rw [hshape] at h
    cases h
    simp [hshape]
  | operator op grouping =>
    rw [hshape] at h
    rcases values with _ | ⟨rhs, _ | ⟨lhs, below⟩⟩
    · cases h
    · cases h
    · cases h
      simp [hshape]
  | _ => rw [hshape] at h; cases h

theorem exec_height (h : exec arithmetic values tokens = .ok after) :
    after.length + operators tokens = values.length + operands tokens ∧
      (tokens ≠ [] → after ≠ []) := by
  induction tokens generalizing values with
  | nil =>
    cases h
    exact ⟨rfl, fun hne => absurd rfl hne⟩
  | cons token rest ih =>
    rw [exec_cons] at h
    cases hstep : step arithmetic values token with
    | error f => rw [hstep] at h; cases h
    | ok next =>
      rw [hstep] at h
      obtain ⟨hfirst, hnext⟩ := step_height hstep
      obtain ⟨hrest, hafter⟩ := ih h
      constructor
      · rw [← List.singleton_append, operators, operands, List.countP_append, List.countP_append]
        unfold operators operands at hfirst hrest
        omega
      · intro _
        cases rest with
        | nil => cases h; exact hnext
        | cons second rest => exact hafter (List.cons_ne_nil second rest)

theorem refuses_of_exec (h : exec arithmetic values tokens = .error f) :
    ∃ token ∈ tokens, Refuses token f := by
  induction tokens generalizing values with
  | nil => cases h
  | cons token rest ih =>
    rw [exec_cons] at h
    cases hstep : step arithmetic values token with
    | error f' =>
      rw [hstep] at h
      cases h
      exact ⟨token, List.mem_cons_self, refuses_of_step hstep⟩
    | ok next =>
      rw [hstep] at h
      obtain ⟨refusing, hmem, hrefuses⟩ := ih h
      exact ⟨refusing, List.mem_cons_of_mem token hmem, hrefuses⟩

lemma exists_last_offset (h : tokens ≠ []) (last : ℤ) :
    ∃ token ∈ tokens, tokens.foldl (fun _ token => token.offset) last = token.offset := by
  induction tokens generalizing last with
  | nil => exact absurd rfl h
  | cons token rest ih =>
    cases rest with
    | nil => exact ⟨token, List.mem_cons_self, rfl⟩
    | cons second rest =>
      obtain ⟨final, hmem, hoffset⟩ := ih (List.cons_ne_nil second rest) token.offset
      exact ⟨final, List.mem_cons_of_mem token hmem, hoffset⟩

/-- Tokens are evaluated up to one that is refused, or the result is read off a stack whose
height tells operands from operators. -/
theorem evaluateWith_cases (arithmetic : Arithmetic) (tokens : List Token) :
    (∃ token ∈ tokens, ∃ f, Refuses token f ∧
        evaluateWith arithmetic (Run.ofList tokens) = .error f) ∨
      ∃ values last, values.length + operators tokens = operands tokens ∧
        (tokens ≠ [] → values ≠ [] ∧ ∃ token ∈ tokens, last = token.offset) ∧
        evaluateWith arithmetic (Run.ofList tokens) = result last values := by
  rw [evaluateWith, Run.ofList, run_eq_exec]
  cases hexec : exec arithmetic [] tokens with
  | error f =>
    obtain ⟨token, hmem, hrefuses⟩ := refuses_of_exec hexec
    exact .inl ⟨token, hmem, f, hrefuses, rfl⟩
  | ok values =>
    obtain ⟨hheight, hne⟩ := exec_height hexec
    refine .inr ⟨values, _, by simpa using hheight, fun h => ⟨hne h, ?_⟩, rfl⟩
    exact exists_last_offset h 0

end Postfix

end PostfixCalculator
