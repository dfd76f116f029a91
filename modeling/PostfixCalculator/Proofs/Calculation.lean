import PostfixCalculator.Proofs.Conservation

/-!
# Calculations in postfix order

A calculation is a binary tree of operators with operands at its leaves. The machine takes
calculations one after the other, and nothing else: their values are then what lies on its
stack. So all tokens end in exactly one of five ways, which tells the outcome.
-/
namespace PostfixCalculator

open Postfix

/-- An operator at its place in an expression. -/
structure Connective where
  op : Operator
  grouping : Associativity
  offset : ℤ

namespace Connective

def token (o : Connective) : Token := ⟨.operator o.op o.grouping, o.offset⟩

lemma token_injective : Function.Injective token := by
  rintro ⟨op, grouping, offset⟩ ⟨op', grouping', offset'⟩ h
  obtain ⟨⟨rfl, rfl⟩, rfl⟩ := Token.mk.inj h
  rfl

end Connective

inductive Calculation where
  | operand (value : Float) (offset : ℤ)
  | operation (o : Connective) (lhs rhs : Calculation)

namespace Calculation

variable {a b : List Token} {c d : Calculation}

/-- Both operands come before their operator, the left one first. -/
def postOrder : Calculation → List Token
  | operand value offset => [⟨.operand value, offset⟩]
  | operation o lhs rhs => lhs.postOrder ++ rhs.postOrder ++ [o.token]

def value (arithmetic : Arithmetic) : Calculation → Float
  | operand value _ => value
  | operation o lhs rhs => arithmetic o.op (lhs.value arithmetic) (rhs.value arithmetic)

/-- The tokens of calculations one after the other. -/
def postOrders (cs : List Calculation) : List Token := cs.flatMap postOrder

@[simp] lemma postOrders_nil : postOrders [] = [] := rfl

@[simp] lemma postOrders_singleton (c : Calculation) : postOrders [c] = c.postOrder := by
  simp [postOrders]

lemma postOrders_concat (cs : List Calculation) (c : Calculation) :
    postOrders (cs ++ [c]) = postOrders cs ++ c.postOrder := by
  simp [postOrders]

lemma postOrders_operation (cs : List Calculation) (o : Connective) (lhs rhs : Calculation) :
    postOrders (cs ++ [operation o lhs rhs]) = postOrders (cs ++ [lhs, rhs]) ++ [o.token] := by
  simp [postOrders, postOrder]

/-- The last token tells the root, so the calculation at the end of some tokens is the only one
there. -/
theorem postOrder_at_end (h : a ++ c.postOrder = b ++ d.postOrder) : a = b ∧ c = d := by
  induction c generalizing a b d with
  | operand value offset =>
    cases d with
    | operand value' offset' =>
      obtain ⟨rfl, hlast⟩ := List.append_inj' h rfl
      obtain ⟨⟨rfl⟩, rfl⟩ := Token.mk.inj (List.head_eq_of_cons_eq hlast)
      exact ⟨rfl, rfl⟩
    | operation o lhs rhs =>
      rw [postOrder, postOrder, ← List.append_assoc] at h
      obtain ⟨-, hlast⟩ := List.append_inj' h rfl
      simp [Connective.token] at hlast
  | operation o lhs rhs ihl ihr =>
    cases d with
    | operand value' offset' =>
      rw [postOrder, postOrder, ← List.append_assoc] at h
      obtain ⟨-, hlast⟩ := List.append_inj' h rfl
      simp [Connective.token] at hlast
    | operation o' lhs' rhs' =>
      simp only [postOrder, ← List.append_assoc] at h
      obtain ⟨hoperands, hlast⟩ := List.append_inj' h rfl
      obtain ⟨hleft, rfl⟩ := ihr hoperands
      obtain ⟨rfl, rfl⟩ := ihl hleft
      rw [Connective.token_injective (List.head_eq_of_cons_eq hlast)]
      exact ⟨rfl, rfl⟩

theorem postOrder_injective : Function.Injective postOrder := fun _ _ h =>
  (postOrder_at_end (a := []) (b := []) h).2

lemma postOrder_ne_nil (c : Calculation) : c.postOrder ≠ [] := by cases c <;> simp [postOrder]

/-- Tokens fall into calculations in one way at most. -/
theorem postOrders_injective : Function.Injective postOrders := by
  intro cs
  induction cs using List.reverseRecOn with
  | nil =>
    intro ds h
    rcases ds.eq_nil_or_concat' with rfl | ⟨ds, d, rfl⟩
    · rfl
    · rw [postOrders_concat] at h
      exact absurd (List.append_eq_nil_iff.1 h.symm).2 d.postOrder_ne_nil
  | append_singleton cs c ih =>
    intro ds h
    rcases ds.eq_nil_or_concat' with rfl | ⟨ds, d, rfl⟩
    · rw [postOrders_concat] at h
      exact absurd (List.append_eq_nil_iff.1 h).2 c.postOrder_ne_nil
    · rw [postOrders_concat, postOrders_concat] at h
      obtain ⟨hbefore, rfl⟩ := postOrder_at_end h
      rw [ih hbefore]

lemma exec_postOrder (arithmetic : Arithmetic) (values : List Float) (c : Calculation) :
    exec arithmetic values c.postOrder = .ok (c.value arithmetic :: values) := by
  induction c generalizing values with
  | operand value offset => rfl
  | operation o lhs rhs ihl ihr =>
    rw [postOrder, exec_append, exec_append, ihl]
    show (exec arithmetic _ rhs.postOrder >>= _) = _
    rw [ihr]
    rfl

/-- Every calculation leaves its value on top of those before it. -/
theorem exec_postOrders (arithmetic : Arithmetic) (cs : List Calculation) :
    exec arithmetic [] (postOrders cs) = .ok (cs.map (value arithmetic)).reverse := by
  induction cs using List.reverseRecOn with
  | nil => rfl
  | append_singleton cs c ih =>
    rw [postOrders_concat, exec_append, ih]
    show exec arithmetic _ c.postOrder = _
    rw [exec_postOrder]
    simp

end Calculation

open Calculation

lemma exists_two_last {cs : List Calculation} (h : 2 ≤ cs.length) :
    ∃ (ds : List Calculation) (lhs rhs : Calculation), cs = ds ++ [lhs, rhs] := by
  rcases cs.eq_nil_or_concat' with rfl | ⟨front, rhs, rfl⟩
  · simp at h
  · rcases front.eq_nil_or_concat' with rfl | ⟨ds, lhs, rfl⟩
    · simp at h
    · exact ⟨ds, lhs, rhs, by simp⟩

lemma Token.isBracket_iff {token : Token} :
    token.isBracket = true ↔ token.shape = .opening ∨ token.shape = .closing := by
  unfold isBracket isOpening isClosing
  cases token.shape <;> simp

/-- How tokens end that are read as calculations from the left: after none, one or several of
them, or at an operator that finds less than two, or at a bracket. -/
inductive Ending where
  | nothing
  | single (c : Calculation)
  | several (first second : Calculation) (more : List Calculation)
  | starved (cs : List Calculation) (few : cs.length < 2) (o : Connective) (after : List Token)
  | bracketed (cs : List Calculation) (bracket : Token) (isBracket : bracket.isBracket = true)
      (after : List Token)

namespace Ending

def calculations : Ending → List Calculation
  | nothing => []
  | single c => [c]
  | several first second more => first :: second :: more
  | starved cs .. | bracketed cs .. => cs

/-- The token that is refused, and those that are never reached. -/
def rest : Ending → List Token
  | nothing | single _ | several .. => []
  | starved _ _ o after => o.token :: after
  | bracketed _ bracket _ after => bracket :: after

def tokens (e : Ending) : List Token := postOrders e.calculations ++ e.rest

def outcome (arithmetic : Arithmetic) (e : Ending) : Except Fault Float :=
  match e with
  | nothing => .error (.expression .empty none)
  | single c => .ok (c.value arithmetic)
  | several .. =>
    .error (.expression (.extraOperands (e.calculations.dropLast.map (value arithmetic)))
      (e.tokens.getLast?.map Token.offset))
  | starved cs _ o _ => .error (.expression (.missingOperands o.op cs.length) (some o.offset))
  | bracketed _ bracket _ _ =>
    .error (.expression (.bracketInPostfix (if bracket.isOpening then '(' else ')'))
      (some bracket.offset))

/-- The ending after calculations that are followed by nothing. -/
def ofCalculations : List Calculation → Ending
  | [] => nothing
  | [c] => single c
  | first :: second :: more => several first second more

lemma tokens_ofCalculations (cs : List Calculation) : (ofCalculations cs).tokens = postOrders cs := by
  rcases cs with _ | ⟨c, _ | ⟨d, cs⟩⟩ <;> simp [ofCalculations, tokens, calculations, rest]

lemma eq_of_parts {e e' : Ending} (hcalculations : e.calculations = e'.calculations)
    (hrest : e.rest = e'.rest) : e = e' := by
  cases e <;> cases e' <;> simp_all [calculations, rest]
  · exact Connective.token_injective hrest.1
  case starved.bracketed isBracket _ =>
    simp [← hrest.1, Token.isBracket_iff, Connective.token] at isBracket
  case bracketed.starved isBracket _ _ _ _ _ =>
    simp [hrest.1, Token.isBracket_iff, Connective.token] at isBracket

variable {arithmetic : Arithmetic} {tokens : List Token} {values : List Float} {token : Token}
  {f : Fault}

lemma step_starved (arithmetic : Arithmetic) (few : values.length < 2) (o : Connective) :
    step arithmetic values o.token = .error (.expression (.missingOperands o.op values.length) (some o.offset)) := by
  rcases values with _ | ⟨rhs, _ | ⟨lhs, below⟩⟩
  · rfl
  · rfl
  · simp at few

lemma step_bracket (h : token.isBracket = true) : step arithmetic values token =
    .error (.expression (.bracketInPostfix (if token.isOpening then '(' else ')'))
      (some token.offset)) := by
  rcases Token.isBracket_iff.1 h with hshape | hshape <;> simp [step, Token.isOpening, hshape]

/-- Whether a token is refused depends on the number of calculations before it only. -/
lemma exists_step_rest (arithmetic : Arithmetic) (e : Ending) (hlength : values.length = e.calculations.length)
    (h : token ∈ e.rest.head?) : ∃ f, step arithmetic values token = .error f := by
  cases e with
  | nothing => simp [rest] at h
  | single c => simp [rest] at h
  | several first second more => simp [rest] at h
  | starved cs few o after =>
    obtain rfl : o.token = token := by simpa [rest] using h
    exact ⟨_, step_starved arithmetic (hlength.trans_lt few) o⟩
  | bracketed cs bracket isBracket after =>
    obtain rfl : bracket = token := by simpa [rest] using h
    exact ⟨_, step_bracket isBracket⟩

lemma exec_refused (cs : List Calculation) (after : List Token)
    (h : step arithmetic (cs.map (value arithmetic)).reverse token = .error f) :
    exec arithmetic [] (postOrders cs ++ token :: after) = .error f := by
  rw [exec_append, exec_postOrders]
  show exec arithmetic _ (token :: after) = _
  rw [exec_cons, h]
  rfl

lemma evaluateWith_refused (cs : List Calculation) (after : List Token)
    (h : step arithmetic (cs.map (value arithmetic)).reverse token = .error f) :
    evaluateWith arithmetic (Run.ofList (postOrders cs ++ token :: after)) = .error f := by
  rw [evaluateWith, Run.ofList, run_eq_exec, exec_refused cs after h]
  rfl

lemma getLast?_map_offset (h : tokens ≠ []) (last : ℤ) :
    tokens.getLast?.map Token.offset =
      some (tokens.foldl (fun _ token => token.offset) last) := by
  rcases tokens.eq_nil_or_concat' with rfl | ⟨before, token, rfl⟩
  · exact absurd rfl h
  · simp

lemma result_extra {below : List Float} (h : below ≠ []) (last : ℤ) (top : Float) :
    result last (top :: below) =
      .error (.expression (.extraOperands below.reverse) (some last)) := by
  cases below with
  | nil => exact absurd rfl h
  | cons next below => rfl

/-- The machine has the outcome of the way in which its tokens end. -/
theorem evaluateWith_tokens (arithmetic : Arithmetic) (e : Ending) :
    evaluateWith arithmetic (Run.ofList e.tokens) = e.outcome arithmetic := by
  have hheight : ∀ cs : List Calculation, (cs.map (value arithmetic)).reverse.length = cs.length := by
    simp
  cases e with
  | nothing => rfl
  | single c =>
    rw [outcome, evaluateWith_eq_ok, tokens, rest, List.append_nil, exec_postOrders]
    rfl
  | several first second more =>
    have hmany : 2 ≤ (first :: second :: more).length := by simp
    obtain ⟨before, lhs, rhs, hcs⟩ := exists_two_last hmany
    have hne : (several first second more).tokens ≠ [] := by
      simp [tokens, calculations, postOrders, first.postOrder_ne_nil]
    rw [outcome, getLast?_map_offset hne 0, evaluateWith, Run.ofList, run_eq_exec, tokens, rest,
      List.append_nil, calculations, exec_postOrders, hcs]
    have hvalues : ((before ++ [lhs, rhs]).map (value arithmetic)).reverse =
        rhs.value arithmetic :: ((before ++ [lhs]).map (value arithmetic)).reverse := by simp
    have hfront : (before ++ [lhs, rhs]).dropLast = before ++ [lhs] := by
      rw [List.append_cons, List.dropLast_concat]
    rw [hvalues, hfront]
    show result _ (_ :: _) = _
    rw [result_extra (by simp), List.reverse_reverse]
  | starved cs few o after =>
    have hrefused := step_starved arithmetic ((hheight cs).trans_lt few) o
    rw [hheight] at hrefused
    exact evaluateWith_refused cs after hrefused
  | bracketed cs bracket isBracket after =>
    exact evaluateWith_refused cs after (step_bracket isBracket)

/-- Read from the left, tokens make calculations until one of them is refused. -/
theorem exists_ending (h : Shaped tokens) (cs : List Calculation) :
    ∃ e : Ending, e.tokens = postOrders cs ++ tokens := by
  induction tokens generalizing cs with
  | nil => exact ⟨ofCalculations cs, by rw [tokens_ofCalculations, List.append_nil]⟩
  | cons token tokens ih =>
    obtain ⟨hshape, hrest⟩ := List.forall_mem_cons.1 h
    obtain ⟨shape, offset⟩ := token
    cases shape with
    | operand value =>
      obtain ⟨e, he⟩ := ih hrest (cs ++ [.operand value offset])
      exact ⟨e, by simp [he, postOrders_concat, postOrder]⟩
    | operator op grouping =>
      by_cases hfew : cs.length < 2
      · exact ⟨.starved cs hfew ⟨op, grouping, offset⟩ tokens, rfl⟩
      · obtain ⟨ds, lhs, rhs, rfl⟩ := exists_two_last (not_lt.1 hfew)
        obtain ⟨e, he⟩ := ih hrest (ds ++ [.operation ⟨op, grouping, offset⟩ lhs rhs])
        exact ⟨e, by simp [he, postOrders_operation, Connective.token]⟩
    | opening => exact ⟨.bracketed cs ⟨.opening, offset⟩ rfl tokens, rfl⟩
    | closing => exact ⟨.bracketed cs ⟨.closing, offset⟩ rfl tokens, rfl⟩
    | bare => exact absurd rfl hshape

/-- Calculations that are followed by other calculations are not followed by a refused token. -/
lemma parts_of_append {e e' : Ending} {more : List Token}
    (hcalculations : postOrders e'.calculations = postOrders e.calculations ++ more)
    (hrest : e.rest = more ++ e'.rest) : e = e' := by
  cases more with
  | nil =>
    rw [List.append_nil] at hcalculations
    exact eq_of_parts (postOrders_injective hcalculations).symm hrest
  | cons token more =>
    -- the machine takes all calculations of `e'`, and would stop at the rest of `e`
    have hhead : token ∈ e.rest.head? := by simp [hrest]
    have hheight : (e.calculations.map (value Operator.apply)).reverse.length =
        e.calculations.length := by simp
    obtain ⟨f, hf⟩ := exists_step_rest Operator.apply e hheight hhead
    have htaken := exec_postOrders Operator.apply e'.calculations
    rw [hcalculations, exec_refused e.calculations more hf] at htaken
    cases htaken

lemma tokens_injective : Function.Injective Ending.tokens := by
  intro e e' h
  rcases List.append_eq_append_iff.1 h with ⟨more, hcalculations, hrest⟩ | ⟨more, hcalculations, hrest⟩
  · exact parts_of_append hcalculations hrest
  · exact (parts_of_append hcalculations hrest).symm

theorem existsUnique_ending (h : Shaped tokens) : ∃! e : Ending, e.tokens = tokens := by
  obtain ⟨e, he⟩ := exists_ending h []
  rw [postOrders_nil, List.nil_append] at he
  exact ⟨e, he, fun e' he' => tokens_injective (he'.trans he.symm)⟩

variable {op : Operator} {available : ℕ} {bracket : Char} {place : Option ℤ} {value : Float}

lemma tokens_single (c : Calculation) : (single c).tokens = c.postOrder := by
  simp [Ending.tokens, calculations, rest]

lemma outcome_eq_value {e : Ending} :
    e.outcome arithmetic = .ok value ↔ ∃ c, e = single c ∧ value = c.value arithmetic := by
  cases e <;> simp [outcome, eq_comm (a := value)]

lemma outcome_eq_empty {e : Ending} :
    e.outcome arithmetic = .error (.expression .empty place) ↔ e = nothing ∧ place = none := by
  cases e <;> simp [outcome, eq_comm (a := place)]

lemma outcome_eq_missingOperands {e : Ending} :
    e.outcome arithmetic = .error (.expression (.missingOperands op available) place) ↔
      ∃ cs few o after, e = starved cs few o after ∧ cs.length = available ∧ o.op = op ∧
        place = some o.offset := by
  cases e with
  | starved cs few o after =>
    simp only [outcome, Except.error.injEq, Fault.expression.injEq, Problem.missingOperands.injEq]
    constructor
    · rintro ⟨⟨hop, hlength⟩, rfl⟩
      exact ⟨cs, few, o, after, rfl, hlength, hop, rfl⟩
    · rintro ⟨cs', few', o', after', ⟨⟩, hlength, hop, rfl⟩
      exact ⟨⟨hop, hlength⟩, rfl⟩
  | _ => simp [outcome]

lemma outcome_eq_bracketInPostfix {e : Ending} :
    e.outcome arithmetic = .error (.expression (.bracketInPostfix bracket) place) ↔
      ∃ cs token isBracket after, e = bracketed cs token isBracket after ∧
        token.render = [bracket] ∧ place = some token.offset := by
  cases e with
  | bracketed cs token isBracket after =>
    have hrender : token.render = [if token.isOpening then '(' else ')'] := by
      rcases Token.isBracket_iff.1 isBracket with hshape | hshape <;>
        simp [Token.render, Token.isOpening, hshape]
    simp only [outcome, Except.error.injEq, Fault.expression.injEq, Problem.bracketInPostfix.injEq]
    constructor
    · rintro ⟨rfl, rfl⟩
      exact ⟨cs, token, isBracket, after, rfl, hrender, rfl⟩
    · rintro ⟨cs', token', isBracket', after', ⟨⟩, hbracket, rfl⟩
      rw [hrender] at hbracket
      exact ⟨List.singleton_injective hbracket, rfl⟩
  | _ => simp [outcome]

lemma outcome_eq_extraOperands {e : Ending} :
    e.outcome arithmetic = .error (.expression (.extraOperands values) place) ↔
      ∃ first second more, e = several first second more ∧
        values = e.calculations.dropLast.map (Calculation.value arithmetic) ∧
        place = e.tokens.getLast?.map Token.offset := by
  cases e <;> simp [outcome, eq_comm (a := values), eq_comm (a := place)]

end Ending

open Ending

variable {tokens : List Token}

/-- Tokens end in exactly one way, and each of the five ways has its own outcome. Only the
postfix order of one calculation has a value. -/
theorem evaluateWith_eq_iff (arithmetic : Arithmetic) (h : Shaped tokens) :
    (∃! e : Ending, e.tokens = tokens) ∧
    (∀ value, evaluateWith arithmetic (Run.ofList tokens) = .ok value ↔
      ∃ c : Calculation, tokens = c.postOrder ∧ (∀ c', tokens = c'.postOrder → c' = c) ∧
        value = c.value arithmetic) ∧
    (∀ place, evaluateWith arithmetic (Run.ofList tokens) = .error (.expression .empty place) ↔
      tokens = [] ∧ place = none) ∧
    (∀ op available place, evaluateWith arithmetic (Run.ofList tokens) =
        .error (.expression (.missingOperands op available) place) ↔
      ∃ (cs : List Calculation) (o : Connective) (after : List Token), cs.length = available ∧
        available < 2 ∧ o.op = op ∧ place = some o.offset ∧
        tokens = postOrders cs ++ o.token :: after) ∧
    (∀ bracket place, evaluateWith arithmetic (Run.ofList tokens) =
        .error (.expression (.bracketInPostfix bracket) place) ↔
      ∃ cs token after, token.isBracket = true ∧ token.render = [bracket] ∧
        place = some token.offset ∧ tokens = postOrders cs ++ token :: after) ∧
    (∀ values place, evaluateWith arithmetic (Run.ofList tokens) =
        .error (.expression (.extraOperands values) place) ↔
      ∃ cs, 2 ≤ cs.length ∧ tokens = postOrders cs ∧
        values = cs.dropLast.map (Calculation.value arithmetic) ∧
        place = tokens.getLast?.map Token.offset) := by
  obtain ⟨e, rfl, -⟩ := existsUnique_ending h
  rw [evaluateWith_tokens]
  refine ⟨existsUnique_ending h, fun value => ?_, fun place => ?_, fun op available place => ?_,
    fun bracket place => ?_, fun values place => ?_⟩
  · rw [outcome_eq_value]
    constructor
    · rintro ⟨c, rfl, hvalue⟩
      rw [tokens_single]
      exact ⟨c, rfl, fun c' hc' => (postOrder_injective hc').symm, hvalue⟩
    · rintro ⟨c, hc, -, hvalue⟩
      exact ⟨c, tokens_injective (hc.trans (tokens_single c).symm), hvalue⟩
  · rw [outcome_eq_empty, ← tokens_injective.eq_iff]
    rfl
  · rw [outcome_eq_missingOperands]
    constructor
    · rintro ⟨cs, few, o, after, rfl, rfl, hop, hplace⟩
      exact ⟨cs, o, after, rfl, few, hop, hplace, rfl⟩
    · rintro ⟨cs, o, after, rfl, few, hop, hplace, htokens⟩
      exact ⟨cs, few, o, after, tokens_injective htokens, rfl, hop, hplace⟩
  · rw [outcome_eq_bracketInPostfix]
    constructor
    · rintro ⟨cs, token, isBracket, after, rfl, hrender, hplace⟩
      exact ⟨cs, token, after, isBracket, hrender, hplace, rfl⟩
    · rintro ⟨cs, token, after, isBracket, hrender, hplace, htokens⟩
      exact ⟨cs, token, isBracket, after, tokens_injective htokens, hrender, hplace⟩
  · rw [outcome_eq_extraOperands]
    constructor
    · rintro ⟨first, second, more, rfl, hvalues, hplace⟩
      refine ⟨first :: second :: more, by simp, ?_, hvalues, hplace⟩
      rw [Ending.tokens, rest, List.append_nil, calculations]
    · rintro ⟨cs, many, htokens, hvalues, hplace⟩
      obtain ⟨first, second, more, rfl⟩ : ∃ first second more, cs = first :: second :: more := by
        rcases cs with _ | ⟨first, _ | ⟨second, more⟩⟩
        · simp at many
        · simp at many
        · exact ⟨first, second, more, rfl⟩
      have he : e = several first second more :=
        tokens_injective (htokens.trans (tokens_ofCalculations _).symm)
      exact ⟨first, second, more, he, by rw [he]; exact hvalues, hplace⟩

theorem evaluateWith_eq_iff_starved :
    Shaped [.operand 1 0, .operand 2 2, .operator .addition 4, .operator .multiplication 6,
        .operand 3 8] ∧
      evaluate (Run.ofList [.operand 1 0, .operand 2 2, .operator .addition 4,
          .operator .multiplication 6, .operand 3 8]) =
        .error (.expression (.missingOperands .multiplication 1) (some 6)) := by
  have hshaped : Shaped [.operand 1 0, .operand 2 2, .operator .addition 4,
      .operator .multiplication 6, .operand 3 8] := by
    simp [Shaped, Token.operand, Token.operator]
  obtain ⟨-, -, -, hmissing, -⟩ := evaluateWith_eq_iff Operator.apply hshaped
  refine ⟨hshaped, (hmissing .multiplication 1 (some 6)).2 ?_⟩
  exact ⟨[.operation ⟨.addition, .left, 4⟩ (.operand 1 0) (.operand 2 2)],
    ⟨.multiplication, .left, 6⟩, [.operand 3 8], rfl, by decide, rfl, rfl, rfl⟩

end PostfixCalculator
