import PostfixCalculator.Proofs.Evaluation
import PostfixCalculator.Proofs.Number.Bits
import PostfixCalculator.Proofs.Serialization

/-!
# What equal expressions have in common

Operands are equal when they are the same double or zeros of opposite signs, and all other tokens
when they have the same shape. Equal expressions whose zeros agree in sign have the same outcome.
In general they have outcomes of the same kind, and may have different values.
-/
namespace PostfixCalculator

namespace Number

variable {x y : Float}

/-- Zero and negative zero. -/
def OppositeZeros (x y : Float) : Prop := (x = 0 ∧ y = -0.0) ∨ (x = -0.0 ∧ y = 0)

/-- The exact value, where zero has no sign. -/
def Exact.unsignedZero : Exact → Exact
  | .finite _ 0 e => .finite false 0 e
  | v => v

lemma exact_injective (h : exact x = exact y) : x = y := by
  cases hx : exact x with
  | notNumber => exact (exact_notNumber hx).symm.trans (exact_notNumber (h.symm.trans hx))
  | infinite negative => exact (exact_infinite hx).symm.trans (exact_infinite (h.symm.trans hx))
  | finite negative m e =>
    exact (exact_finite hx).2.symm.trans (exact_finite (h.symm.trans hx)).2

lemma eq_zero_of_exact {negative : Bool} {e : ℤ} (h : exact x = .finite negative 0 e) :
    e = -1074 ∧ x = if negative then -0.0 else 0 := by
  obtain ⟨hnormal, hx⟩ := exact_finite h
  have he : e = -1074 := hnormal.leading.resolve_right (by norm_num)
  subst he
  refine ⟨rfl, hx.symm.trans ?_⟩
  cases negative <;> rfl

/-- The canonical bits tell everything but the sign of zero. -/
lemma exactOfBits_canonicalBits (x : Float) :
    exactOfBits (canonicalBits x) = (exact x).unsignedZero := by
  unfold canonicalBits
  cases hx : exact x with
  | notNumber =>
    dsimp only [Exact.unsignedZero]
    rfl
  | infinite negative => exact hx
  | finite negative m e =>
    cases m with
    | zero =>
      obtain ⟨rfl, -⟩ := eq_zero_of_exact hx
      change exactOfBits 0 = Exact.finite false 0 (-1074)
      rfl
    | succ m => exact hx

lemma eq_or_opposite_of_unsignedZero (h : (exact x).unsignedZero = (exact y).unsignedZero) :
    x = y ∨ OppositeZeros x y := by
  unfold Exact.unsignedZero at h
  split at h <;> split at h
  · next negative e hx _ negative' e' hy =>
    have hzero := (eq_zero_of_exact hx).2
    have hzero' := (eq_zero_of_exact hy).2
    cases negative <;> cases negative' <;> simp_all [OppositeZeros]
  · next hy => exact absurd h.symm (hy _ _)
  · next hx _ _ _ _ => exact absurd h (hx _ _)
  · exact .inl (exact_injective h)

theorem canonicalBits_eq_iff : canonicalBits x = canonicalBits y ↔ x = y ∨ OppositeZeros x y := by
  constructor
  · intro h
    refine eq_or_opposite_of_unsignedZero ?_
    rw [← exactOfBits_canonicalBits, h, exactOfBits_canonicalBits]
  · rintro (rfl | ⟨rfl, rfl⟩ | ⟨rfl, rfl⟩)
    · rfl
    · rfl
    · rfl

end Number

open Postfix Number

variable {a b : Expression} {s t : Shape} {x y : Float}

lemma Shape.key_eq_iff :
    s.key = t.key ↔ s = t ∨ ∃ x y, s = .operand x ∧ t = .operand y ∧ OppositeZeros x y := by
  cases s <;> cases t <;> simp [Shape.key, canonicalBits_eq_iff]

lemma Expression.beq_iff :
    (a == b) = true ↔ List.Forall₂ (fun t u : Token => t.shape.key = u.shape.key) a.tokens b.tokens := by
  rw [Expression.beq_iff_keys, ← List.forall₂_eq_eq_eq, List.forall₂_map_left_iff,
    List.forall₂_map_right_iff]

/-- At no position do the expressions have zeros of opposite signs. -/
def ZerosAgree (a b : Expression) : Prop :=
  ∀ p ∈ a.tokens.zip b.tokens, ∀ x y, p.1.shape = .operand x → p.2.shape = .operand y →
    ¬ OppositeZeros x y

/-- Equal expressions have the same shapes unless zeros differ in sign. -/
theorem alike_of_beq (h : (a == b) = true) (hzeros : ZerosAgree a b) : Alike a b := by
  obtain ⟨ts⟩ := a
  obtain ⟨us⟩ := b
  have hkeys := Expression.beq_iff.1 h
  unfold ZerosAgree at hzeros
  unfold Alike
  clear h
  dsimp only at hkeys hzeros ⊢
  induction hkeys with
  | nil => rfl
  | @cons t u ts us hkey hrest ih =>
    rw [List.zip_cons_cons, List.forall_mem_cons] at hzeros
    obtain ⟨hhead, htail⟩ := hzeros
    rw [List.map_cons, List.map_cons, ih htail]
    rcases Shape.key_eq_iff.1 hkey with hshape | ⟨x, y, ht, hu, hopposite⟩
    · rw [hshape]
    · exact absurd hopposite (hhead x y ht hu)

/-- Both are values, or the same fault but for the values that are left over. -/
inductive SameKind : Except Fault Float → Except Fault Float → Prop
  | value (x y : Float) : SameKind (.ok x) (.ok y)
  | extraOperands {xs ys : List Float} (h : xs.length = ys.length) (offset : Option ℤ) :
      SameKind (.error (.expression (.extraOperands xs) offset))
        (.error (.expression (.extraOperands ys) offset))
  | fault (f : Fault) : SameKind (.error f) (.error f)

/-- Two stacks are left with as many values, or the same fault is met up to its offset. -/
def SameHeight (r r' : Except Fault (List Float)) : Prop :=
  (∃ xs ys, r = .ok xs ∧ r' = .ok ys ∧ xs.length = ys.length) ∨
    ∃ f, outcome r = .error f ∧ outcome r' = .error f

lemma sameHeight_step (arithmetic : Arithmetic) {t u : Token} (hkey : t.shape.key = u.shape.key)
    {xs ys : List Float} (h : xs.length = ys.length) :
    SameHeight (step arithmetic xs t) (step arithmetic ys u) := by
  obtain ⟨s, i⟩ := t
  obtain ⟨s', j⟩ := u
  dsimp only at hkey
  rcases Shape.key_eq_iff.1 hkey with rfl | ⟨x, y, rfl, rfl, -⟩
  · cases s with
    | operand value => exact .inl ⟨_, _, rfl, rfl, by simpa using h⟩
    | operator op grouping =>
      -- the heights decide whether there are two values to take
      rcases xs with _ | ⟨x, _ | ⟨x', xs⟩⟩ <;> rcases ys with _ | ⟨y, _ | ⟨y', ys⟩⟩ <;> simp at h
      · exact .inr ⟨_, rfl, rfl⟩
      · exact .inr ⟨_, rfl, rfl⟩
      · exact .inl ⟨_, _, rfl, rfl, by simpa using h⟩
    | opening => exact .inr ⟨_, rfl, rfl⟩
    | closing => exact .inr ⟨_, rfl, rfl⟩
    | bare => exact .inr ⟨_, rfl, rfl⟩
  · exact .inl ⟨_, _, rfl, rfl, by simpa using h⟩

theorem sameHeight_exec (arithmetic : Arithmetic) {ts us : List Token}
    (hkeys : List.Forall₂ (fun t u : Token => t.shape.key = u.shape.key) ts us)
    {xs ys : List Float} (h : xs.length = ys.length) :
    SameHeight (exec arithmetic xs ts) (exec arithmetic ys us) := by
  induction hkeys generalizing xs ys with
  | nil => exact .inl ⟨xs, ys, rfl, rfl, h⟩
  | @cons t u ts us hkey hrest ih =>
    rw [exec_cons, exec_cons]
    rcases sameHeight_step arithmetic hkey h with
      ⟨xs', ys', hxs, hys, hlength⟩ | ⟨f, hf, hf'⟩
    · rw [hxs, hys]
      exact ih hlength
    · refine .inr ⟨f, ?_⟩
      cases hstep : step arithmetic xs t with
      | ok values => rw [hstep] at hf; cases hf
      | error g =>
        cases hstep' : step arithmetic ys u with
        | ok values => rw [hstep'] at hf'; cases hf'
        | error g' =>
          rw [hstep] at hf
          rw [hstep'] at hf'
          exact ⟨hf, hf'⟩

lemma sameKind_result {xs ys : List Float} (h : xs.length = ys.length) (last : ℤ) :
    SameKind (result last xs) (result last ys) := by
  rcases xs with _ | ⟨x, _ | ⟨x', xs⟩⟩ <;> rcases ys with _ | ⟨y, _ | ⟨y', ys⟩⟩ <;> simp at h
  · exact .fault _
  · exact .value x y
  · exact .extraOperands (by simpa using h) _

/-- Equal expressions have the same outcome if their zeros agree in sign. If not, they still both
have a value, or both the same problem but for the values that are left over. -/
theorem outcome_of_beq (arithmetic : Arithmetic) (h : (a == b) = true) :
    (ZerosAgree a b →
      outcome (a.evaluateWith arithmetic) = outcome (b.evaluateWith arithmetic)) ∧
      SameKind (outcome (a.evaluateWith arithmetic)) (outcome (b.evaluateWith arithmetic)) := by
  refine ⟨fun hzeros => (alike_of_beq h hzeros).outcome_eq arithmetic, ?_⟩
  rw [Expression.evaluateWith, Expression.evaluateWith, outcome_evaluateWith, outcome_evaluateWith]
  have hempty : ([] : List Float).length = ([] : List Float).length := rfl
  rcases sameHeight_exec arithmetic (Expression.beq_iff.1 h) hempty with
    ⟨xs, ys, hxs, hys, hlength⟩ | ⟨f, hf, hf'⟩
  · rw [hxs, hys]
    exact sameKind_result hlength 0
  · rw [hf, hf']
    exact .fault f

/-- What is not a number equals itself, and so does zero. -/
theorem outcome_of_beq_extra :
    let a : Expression := ⟨[.operand 0 0, .operand notNumber 2]⟩
    let b : Expression := ⟨[.operand 0 5, .operand notNumber 9]⟩
    (a == b) = true ∧ ZerosAgree a b ∧
      outcome a.evaluate = .error (.expression (.extraOperands [0]) (some 0)) ∧
      outcome b.evaluate = outcome a.evaluate := by
  intro a b
  have hbeq : (a == b) = true := by decide +kernel
  have hzeros : ZerosAgree a b := by
    intro p hp x y hx hy
    have hsame : x = y := by
      simp only [a, b, List.zip_cons_cons, List.zip_nil_left, List.mem_cons, List.not_mem_nil,
        or_false] at hp
      rcases hp with rfl | rfl <;> cases hx <;> cases hy <;> rfl
    have hsigns : (0 : Float) ≠ -0.0 := by decide +kernel
    rintro (⟨rfl, hzero⟩ | ⟨rfl, hzero⟩)
    · exact hsigns (hsame.trans hzero)
    · exact hsigns (hsame.trans hzero).symm
  exact ⟨hbeq, hzeros, rfl, ((outcome_of_beq Operator.apply hbeq).1 hzeros).symm⟩

/-- Zeros of opposite signs are equal and their inverses are not. -/
theorem outcome_of_opposite_zeros :
    let a : Expression := ⟨[.operand 1 0, .operand 0 2, .operator .division 4]⟩
    let b : Expression := ⟨[.operand 1 0, .operand (-0.0) 2, .operator .division 5]⟩
    (a == b) = true ∧ hash a = hash b ∧ a.evaluate = .ok (infinity false) ∧
      b.evaluate = .ok (infinity true) ∧ infinity false ≠ infinity true := by
  have hpositive : (1 : Float) / 0 = infinity false := by decide +kernel
  have hnegative : (1 : Float) / -0.0 = infinity true := by decide +kernel
  intro a b
  refine ⟨by decide +kernel, rfl, ?_, ?_, by decide +kernel⟩
  · exact congrArg Except.ok hpositive
  · exact congrArg Except.ok hnegative

end PostfixCalculator
