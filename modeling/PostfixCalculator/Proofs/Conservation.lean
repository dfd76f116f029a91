import PostfixCalculator.Proofs.Brackets
import PostfixCalculator.Proofs.Evaluation

/-!
# Nothing is lost on the way to postfix order

What was sent on and what still waits is together what came in, but for brackets that found
their partner. So the postfix order has the operands and the operators of the infix order.
-/
namespace PostfixCalculator

def Token.isBracket (token : Token) : Bool := token.isOpening || token.isClosing

/-- The tokens that are no brackets. -/
def unbracketed (tokens : List Token) : List Token := tokens.filter fun token => !token.isBracket

lemma unbracketed_append (a b : List Token) : unbracketed (a ++ b) = unbracketed a ++ unbracketed b :=
  List.filter_append a b

lemma mem_unbracketed {token : Token} {tokens : List Token} :
    token ∈ unbracketed tokens ↔ token ∈ tokens ∧ token.isBracket = false := by
  simp [unbracketed]

lemma countP_unbracketed {p : Token → Bool} (hp : ∀ token, p token = true → token.isBracket = false)
    (tokens : List Token) : (unbracketed tokens).countP p = tokens.countP p := by
  rw [unbracketed, List.countP_filter]
  refine List.countP_congr fun token _ => ?_
  have htoken := hp token
  simp_all

namespace Infix

variable {token : Token} {stack sent after out tokens : List Token}

/-- Operators and opening brackets are the tokens that wait. -/
def Waits (token : Token) : Prop := token.isOperator = true ∨ token.isOpening = true

lemma isBracket_of_waits (h : Waits token) (hopening : token.isOpening = false) :
    token.isBracket = false := by
  unfold Waits Token.isOperator at h
  unfold Token.isBracket Token.isClosing
  unfold Token.isOpening at *
  cases hshape : token.shape <;> simp_all

lemma isOperator_of_waits (h : Waits token) (hbracket : token.isBracket = false) :
    token.isOperator = true :=
  h.resolve_right fun hopening => by simp [Token.isBracket, hopening] at hbracket

lemma step_perm (h : step stack token = (sent, .ok after)) :
    (unbracketed (sent ++ after)).Perm (unbracketed (stack ++ [token])) := by
  cases moves_of_step h with
  | operand shape => exact (List.perm_append_singleton token stack).symm.filter _
  | opening shape => exact (List.perm_append_singleton token stack).symm.filter _
  | operator shape sent waiting leave stay =>
    rw [List.append_assoc]
    exact ((List.perm_append_singleton token waiting).symm.append_left sent).filter _
  | closing shape sent partner after leave opened =>
    have htoken : token.isBracket = true := by simp [Token.isBracket, Token.isClosing, shape]
    have hpartner : partner.isBracket = true := by simp [Token.isBracket, opened]
    simp [unbracketed, htoken, hpartner]

theorem feed_perm (h : feed stack tokens = (sent, .ok after)) :
    (unbracketed (sent ++ after)).Perm (unbracketed (stack ++ tokens)) := by
  induction tokens generalizing stack sent with
  | nil =>
    cases h
    rw [List.nil_append, List.append_nil]
  | cons token tokens ih =>
    obtain ⟨first, next, later, hstep, hlater, rfl⟩ := feed_cons_eq_ok h
    calc unbracketed ((first ++ later) ++ after)
        = unbracketed first ++ unbracketed (later ++ after) := by rw [List.append_assoc, unbracketed_append]
      List.Perm _ (unbracketed first ++ unbracketed (next ++ tokens)) := (ih hlater).append_left _
      _ = unbracketed (first ++ next) ++ unbracketed tokens := by simp [unbracketed_append]
      List.Perm _ (unbracketed (stack ++ [token]) ++ unbracketed tokens) := (step_perm hstep).append_right _
      _ = unbracketed (stack ++ token :: tokens) := by
        rw [← unbracketed_append, List.append_assoc, List.singleton_append]

lemma step_waits (hstack : ∀ top ∈ stack, Waits top) (h : step stack token = (sent, .ok after)) :
    (∀ top ∈ sent, top.isBracket = false) ∧ ∀ top ∈ after, Waits top := by
  cases moves_of_step h with
  | operand shape =>
    refine ⟨?_, hstack⟩
    simp [Token.isBracket, Token.isOpening, Token.isClosing, shape]
  | opening shape =>
    refine ⟨by simp, List.forall_mem_cons.2 ⟨.inr (Token.isOpening_iff.2 shape), hstack⟩⟩
  | operator shape sent waiting leave stay =>
    obtain ⟨hsent, hwaiting⟩ := List.forall_mem_append.1 hstack
    constructor
    · intro top htop
      exact isBracket_of_waits (hsent top htop) (isOpening_of_shouldPop (leave top htop))
    · exact List.forall_mem_cons.2 ⟨.inl (by simp [Token.isOperator, shape]), hwaiting⟩
  | closing shape sent partner after leave opened =>
    obtain ⟨hsent, hrest⟩ := List.forall_mem_append.1 hstack
    constructor
    · intro top htop
      exact isBracket_of_waits (hsent top htop) (leave top htop)
    · exact (List.forall_mem_cons.1 hrest).2

lemma feed_waits (hstack : ∀ top ∈ stack, Waits top) (h : feed stack tokens = (sent, .ok after)) :
    (∀ top ∈ sent, top.isBracket = false) ∧ ∀ top ∈ after, Waits top := by
  induction tokens generalizing stack sent with
  | nil =>
    cases h
    exact ⟨by simp, hstack⟩
  | cons token tokens ih =>
    obtain ⟨first, next, later, hstep, hlater, rfl⟩ := feed_cons_eq_ok h
    obtain ⟨hfirst, hnext⟩ := step_waits hstack hstep
    obtain ⟨hrest, hafter⟩ := ih hnext hlater
    exact ⟨List.forall_mem_append.2 ⟨hfirst, hrest⟩, hafter⟩

/-- The postfix order consists of the tokens that are no brackets. -/
theorem convert_perm (h : convert none [] tokens = Run.ofList out) : out.Perm (unbracketed tokens) := by
  obtain ⟨sent, after, hfeed, rfl, hopening⟩ := feed_of_convert h
  obtain ⟨hsent, hafter⟩ := feed_waits (by simp) hfeed
  have hself : unbracketed (sent ++ after) = sent ++ after := by
    refine List.filter_eq_self.2 (List.forall_mem_append.2 ⟨?_, ?_⟩)
    · intro top htop
      simpa using hsent top htop
    · intro top htop
      simpa using isBracket_of_waits (hafter top htop) (hopening top htop)
  have hperm := feed_perm hfeed
  rwa [hself, List.nil_append] at hperm

theorem convert_counts (h : convert none [] tokens = Run.ofList out) :
    operands out = operands tokens ∧ operators out = operators tokens := by
  have hperm := convert_perm h
  have hoperand : ∀ token : Token, token.isOperand = true → token.isBracket = false := by
    rintro ⟨shape, offset⟩ hshape
    cases shape <;> first | rfl | cases hshape
  have hoperator : ∀ token : Token, token.isOperator = true → token.isBracket = false := by
    rintro ⟨shape, offset⟩ hshape
    cases shape <;> first | rfl | cases hshape
  exact ⟨(hperm.countP_eq _).trans (countP_unbracketed hoperand tokens),
    (hperm.countP_eq _).trans (countP_unbracketed hoperator tokens)⟩

end Infix

end PostfixCalculator
