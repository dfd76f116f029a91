import PostfixCalculator.Proofs.Conversion
import PostfixCalculator.Proofs.Layout
import PostfixCalculator.Proofs.Reading

/-!
# From layouts to postfix order

The operator stack brings the lexemes of a layout into postfix order, whatever operators wait
around it. Without a layout a bracket is left over.
-/
namespace PostfixCalculator.Infix

variable {c : Category} {stack waiting : List Token} {op : Operator}

/-- A stack from which no operator of a category, or of one inside it, sends anything on. -/
def Keeps (c : Category) (stack : List Token) : Prop :=
  ∀ op : Operator, c.precedence ≤ op.precedence →
    sendWhile (shouldPop (.operator op 0)) stack = ([], stack)

/-- Operators that every operator around a category sends on. -/
def Tight (c : Category) (waiting : List Token) : Prop :=
  ∀ token ∈ waiting, ∃ op : Operator, token = .operator op 0 ∧ c.precedence ≤ op.precedence

lemma shouldPop_operator (op op' : Operator) :
    shouldPop (.operator op 0) (.operator op' 0) = decide (op.precedence ≤ op'.precedence) := rfl

namespace Keeps

lemma nil (c : Category) : Keeps c [] := fun _ _ => rfl

lemma opening (c : Category) (stack : List Token) : Keeps c (Lexeme.opening.token :: stack) :=
  fun _ _ => rfl

lemma operand (h : Keeps c stack) : Keeps c.operand stack :=
  fun op hop => h op (c.precedence_le_operand.trans hop)

/-- Behind an operator stands an operand, whose operators bind more tightly. -/
lemma operator (hop : op.category = c) (stack : List Token) :
    Keeps c.operand ((Lexeme.operator op).token :: stack) := by
  intro op' hop'
  have hc : c ≠ .atom := hop ▸ op.category_ne_atom
  have hlt := Category.precedence_lt_operand hc
  have hprecedence := op.precedence_category
  rw [hop] at hprecedence
  have hstays : shouldPop (.operator op' 0) (Lexeme.operator op).token = false :=
    (shouldPop_operator op' op).trans (decide_eq_false (by omega))
  simp [sendWhile, hstays]

end Keeps

namespace Tight

lemma nil (c : Category) : Tight c [] := fun _ h => absurd h List.not_mem_nil

lemma of_operand (h : Tight c.operand waiting) : Tight c waiting := by
  intro token htoken
  obtain ⟨op, rfl, hop⟩ := h token htoken
  exact ⟨op, rfl, c.precedence_le_operand.trans hop⟩

lemma eq_nil (h : Tight .atom waiting) : waiting = [] := by
  refine List.eq_nil_iff_forall_not_mem.2 fun token htoken => ?_
  obtain ⟨op, -, hop⟩ := h token htoken
  cases op <;> exact absurd hop (by decide)

lemma isOpening (h : Tight c waiting) : ∀ token ∈ waiting, token.isOpening = false := by
  intro token htoken
  obtain ⟨op, rfl, -⟩ := h token htoken
  rfl

lemma append_operator (h : Tight c waiting) (hop : op.category = c) :
    Tight c (waiting ++ [(Lexeme.operator op).token]) := by
  intro token htoken
  rcases List.mem_append.1 htoken with hwaiting | hlast
  · exact h token hwaiting
  · exact ⟨op, List.mem_singleton.1 hlast, (hop ▸ op.precedence_category).le⟩

/-- An operator sends on what waits of its left operand, and nothing else. -/
lemma step_operator (hwaiting : Tight c waiting) (hstack : Keeps c stack)
    (hop : op.category = c) :
    step (waiting ++ stack) (Lexeme.operator op).token =
      (waiting, .ok ((Lexeme.operator op).token :: stack)) := by
  have hprecedence := op.precedence_category
  rw [hop] at hprecedence
  have hleave : ∀ token ∈ waiting, shouldPop (.operator op 0) token = true := by
    intro token htoken
    obtain ⟨op', rfl, hop'⟩ := hwaiting token htoken
    rw [shouldPop_operator, decide_eq_true_iff]
    omega
  have hsend := sendWhile_append hleave stack
  rw [hstack op hprecedence.le, List.append_nil] at hsend
  show ((sendWhile (shouldPop (.operator op 0)) (waiting ++ stack)).1,
    Except.ok (_ :: (sendWhile (shouldPop (.operator op 0)) (waiting ++ stack)).2)) = _
  rw [hsend]

end Tight

/-- The lexemes of a layout send on its tokens in postfix order but for the operators that
still wait. Those that waited before stay below. -/
theorem feed_lexemes (l : Layout c) (hstack : Keeps c stack) :
    ∃ sent waiting, feed stack (l.lexemes.map Lexeme.token) = (sent, .ok (waiting ++ stack)) ∧
      sent ++ waiting = l.postOrder ∧ Tight c waiting := by
  -- induction on the layout: `Keeps` goes down to the operands, `Tight` comes up from them
  induction l generalizing stack with
  | nothing => exact ⟨[], [], rfl, rfl, Tight.nil _⟩
  | number before word value reads ih =>
    obtain ⟨sent, waiting, hfeed, hsent, htight⟩ := ih hstack
    obtain rfl := htight.eq_nil
    rw [List.append_nil] at hsent
    refine ⟨sent ++ [.operand value 0], [], ?_, ?_, htight⟩
    · rw [Layout.lexemes, List.map_append, feed_append hfeed]
      rfl
    · rw [List.append_nil, hsent, Layout.postOrder]
  | bracketed before inner ihb ih =>
    obtain ⟨sent, waiting, hfeed, hsent, htight⟩ := ihb hstack
    obtain rfl := htight.eq_nil
    rw [List.append_nil] at hsent
    -- the inner expression is converted on an empty stack, and a group behaves alike on any
    obtain ⟨sent', waiting', hfeed', hsent', htight'⟩ := ih (Keeps.nil _)
    rw [List.append_nil] at hfeed'
    have hgroup := feed_group (convert_of_feed hfeed' htight'.isOpening) 0 0 stack
    refine ⟨sent ++ inner.postOrder, [], ?_, ?_, htight⟩
    · rw [Layout.lexemes, List.map_append, feed_append hfeed, List.map_cons, List.map_append]
      rw [hsent'] at hgroup
      exact congrArg (fun r => (sent ++ r.1, r.2)) hgroup
    · rw [List.append_nil, hsent, Layout.postOrder]
  | single h inner ih =>
    obtain ⟨sent, waiting, hfeed, hsent, htight⟩ := ih hstack.operand
    exact ⟨sent, waiting, hfeed, hsent, htight.of_operand⟩
  | joined op h left right ihl ihr =>
    obtain ⟨sent, waiting, hfeed, hsent, htight⟩ := ihl hstack
    obtain ⟨sent', waiting', hfeed', hsent', htight'⟩ := ihr (Keeps.operator h stack)
    have hop := htight.step_operator hstack h
    refine ⟨sent ++ (waiting ++ sent'), waiting' ++ [(Lexeme.operator op).token], ?_, ?_,
      htight'.of_operand.append_operator h⟩
    · rw [Layout.lexemes, List.map_append, feed_append hfeed, List.map_cons, feed, hop]
      simp [hfeed']
    · rw [Layout.postOrder, ← hsent, ← hsent']
      simp [Lexeme.token, Lexeme.shape, Token.operator]

theorem convert_lexemes (l : Layout .expression) :
    convert none [] (l.lexemes.map Lexeme.token) = Run.ofList l.postOrder := by
  obtain ⟨sent, waiting, hfeed, hsent, htight⟩ := feed_lexemes l (Keeps.nil _)
  rw [List.append_nil] at hfeed
  rw [convert_of_feed hfeed htight.isOpening, hsent]

lemma feed_unfinished {n : ℕ} {xs : List Lexeme} (h : Unfinished n xs) :
    ∃ sent stack, feed [] (xs.map Lexeme.token) = (sent, .ok stack) ∧
      (0 < n → Lexeme.opening.token ∈ stack) := by
  induction h with
  | layout l =>
    obtain ⟨sent, waiting, hfeed, -, -⟩ := feed_lexemes l (Keeps.nil _)
    exact ⟨sent, waiting ++ [], hfeed, fun h => absurd h (lt_irrefl 0)⟩
  | opened before l ih =>
    obtain ⟨sent, stack, hfeed, -⟩ := ih
    obtain ⟨sent', waiting, hfeed', -, -⟩ := feed_lexemes l (Keeps.opening _ stack)
    refine ⟨sent ++ sent', waiting ++ Lexeme.opening.token :: stack, ?_, fun _ => by simp⟩
    rw [List.map_append, feed_append hfeed, List.map_cons, feed]
    exact congrArg (fun r => (sent ++ r.1, r.2)) hfeed'

/-- Lexemes have a layout, or a bracket of them is left over. -/
theorem layout_or_fault (xs : List Lexeme) :
    (∃ l : Layout .expression, l.lexemes = xs) ∨
      ∃ sent problem offset, convert none [] (xs.map Lexeme.token) =
        ⟨sent, some (.expression problem offset)⟩ := by
  rcases Unfinished.or_closing xs with ⟨n, h⟩ | ⟨l, rest, rfl⟩
  · cases n with
    | zero =>
      obtain ⟨l⟩ := h
      exact .inl ⟨l, rfl⟩
    | succ n =>
      obtain ⟨sent, stack, hfeed, hopening⟩ := feed_unfinished h
      obtain ⟨drained, left, -, -, hdrain⟩ := drain_opening ⟨_, hopening n.succ_pos, rfl⟩
      have hconvert := convert_append none [] (xs.map Lexeme.token) []
      rw [List.append_nil, hfeed] at hconvert
      exact .inr ⟨_, _, _, hconvert.trans (congrArg (Run.prepend sent) hdrain)⟩
  · obtain ⟨sent, waiting, hfeed, -, htight⟩ := feed_lexemes l (Keeps.nil _)
    rw [List.append_nil] at hfeed
    have hstep : step waiting Lexeme.closing.token = _ := step_unmatched rfl htight.isOpening
    refine .inr ⟨sent ++ waiting, .unmatchedClosing, some 0, ?_⟩
    rw [List.map_append, convert_append, hfeed]
    dsimp only
    rw [List.map_cons, convert, hstep]
    rfl

end PostfixCalculator.Infix
