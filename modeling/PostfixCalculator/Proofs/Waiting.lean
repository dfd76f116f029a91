import PostfixCalculator.Proofs.Conservation

/-!
# The operators that wait

Whatever tokens come in, operators and opening brackets are all that waits on the stack. An
operator joins another one directly only if it binds more tightly, or as tightly and groups to
the right. So operators that all group to the left bind more and more tightly between two
brackets: the stack grows with the depth of the brackets, not with the length of the input.
-/
namespace PostfixCalculator

/-- The token does not override how its operator groups. -/
def Token.KeepsGrouping (token : Token) : Prop :=
  ∀ op grouping, token.shape = .operator op grouping → grouping = op.associativity

lemma Token.exists_operator {token : Token} (h : token.isOperator = true) :
    ∃ op grouping, token.shape = .operator op grouping := by
  unfold isOperator at h
  cases hshape : token.shape with
  | operator op grouping => exact ⟨op, grouping, rfl⟩
  | _ => simp [hshape] at h

namespace Operator

/-- The place of the precedence among the three that there are. -/
def rank (op : Operator) : ℕ := op.precedence / 10

lemma rank_pos (op : Operator) : 0 < op.rank := by cases op <;> decide

lemma rank_le (op : Operator) : op.rank ≤ 3 := by cases op <;> decide

lemma rank_lt_iff {op op' : Operator} : op'.rank < op.rank ↔ op'.precedence < op.precedence := by
  cases op <;> cases op' <;> decide

end Operator

namespace Infix

variable {token upper lower : Token} {stack sent after tokens between below : List Token}

/-- If both tokens are operators, the upper one binds more tightly, or as tightly and groups to
the right. -/
def StandsOn (upper lower : Token) : Prop :=
  ∀ op grouping op' grouping', upper.shape = .operator op grouping →
    lower.shape = .operator op' grouping' →
      op'.precedence ≤ op.precedence ∧ (op'.precedence = op.precedence → grouping = .right)

/-- What a stack is like, from its top downwards. -/
structure Ordered (stack : List Token) : Prop where
  waits : ∀ top ∈ stack, Waits top
  stands : stack.IsChain StandsOn

/-- Of two operators with no bracket between them the upper one binds more tightly. -/
def Rising (stack : List Token) : Prop :=
  ∀ above upper between lower below op grouping op' grouping',
    stack = above ++ upper :: (between ++ lower :: below) →
      (∀ token ∈ between, token.isOpening = false) →
        upper.shape = .operator op grouping → lower.shape = .operator op' grouping' →
          op'.precedence < op.precedence

lemma standsOn_iff : StandsOn upper lower ↔ shouldPop upper lower = false := by
  unfold StandsOn shouldPop
  cases upper.shape with
  | operator op grouping =>
    cases lower.shape with
    | operator op' grouping' =>
      cases grouping
      · simp only [yields, decide_eq_false_iff_not]
        constructor
        · intro h hle
          obtain ⟨hge, heq⟩ := h _ _ _ _ rfl rfl
          cases heq (by omega)
        · rintro h _ _ _ _ ⟨⟩ ⟨⟩
          exact ⟨by omega, fun heq => absurd heq.ge h⟩
      · simp only [yields, decide_eq_false_iff_not]
        constructor
        · intro h
          exact (h _ _ _ _ rfl rfl).1.not_gt
        · rintro h _ _ _ _ ⟨⟩ ⟨⟩
          exact ⟨by omega, fun _ => rfl⟩
    | _ => simp
  | _ => simp

lemma standsOn_of_opening (h : upper.shape = .opening) (lower : Token) : StandsOn upper lower := by
  intro op grouping op' grouping' hupper
  cases h.symm.trans hupper

lemma ordered_nil : Ordered [] := ⟨by simp, .nil⟩

/-- What a token leaves on the stack is in order if the stack was. -/
lemma Ordered.step (hstack : Ordered stack) (h : step stack token = (sent, .ok after)) :
    Ordered after := by
  refine ⟨(step_waits hstack.waits h).2, ?_⟩
  cases moves_of_step h with
  | operand shape => exact hstack.stands
  | opening shape =>
    exact List.isChain_cons.2 ⟨fun lower _ => standsOn_of_opening shape lower, hstack.stands⟩
  | operator shape sent waiting leave stay =>
    exact List.isChain_cons.2 ⟨fun lower hlower => standsOn_iff.2 (stay lower hlower),
      hstack.stands.right_of_append⟩
  | closing shape sent partner after leave opened => exact hstack.stands.right_of_append.tail

lemma Ordered.feed (hstack : Ordered stack) (h : feed stack tokens = (sent, .ok after)) :
    Ordered after := by
  induction tokens generalizing stack sent with
  | nil => cases h; exact hstack
  | cons token tokens ih =>
    obtain ⟨first, next, later, hstep, hlater, rfl⟩ := feed_cons_eq_ok h
    exact ih (hstack.step hstep) hlater

/-- How tightly an operator on the stack binds; a bracket does not bind. -/
def level (token : Token) : ℕ :=
  match token.shape with
  | .operator op _ => op.rank
  | _ => 0

lemma level_operator {op : Operator} {grouping : Associativity}
    (h : token.shape = .operator op grouping) : level token = op.rank := by
  rw [level, h]

lemma level_le (token : Token) : level token ≤ 3 := by
  unfold level
  split
  · exact Operator.rank_le _
  · exact Nat.zero_le 3

lemma level_of_not_operator (h : token.isOperator = false) : level token = 0 := by
  unfold Token.isOperator at h
  unfold level
  cases hshape : token.shape <;> simp_all

/-- An operator binds more tightly than what lies directly below it, which may be a bracket. -/
def BindsOver (upper lower : Token) : Prop :=
  upper.isOperator = true → level lower < level upper

lemma bindsOver_of_standsOn (h : StandsOn upper lower) (hkeeps : upper.KeepsGrouping) :
    BindsOver upper lower := by
  intro hupper
  obtain ⟨op, grouping, hshape⟩ := Token.exists_operator hupper
  rw [level_operator hshape]
  cases hlower : lower.isOperator with
  | false =>
    rw [level_of_not_operator hlower]
    exact op.rank_pos
  | true =>
    obtain ⟨op', grouping', hshape'⟩ := Token.exists_operator hlower
    rw [level_operator hshape']
    obtain ⟨hle, heq⟩ := h _ _ _ _ hshape hshape'
    refine Operator.rank_lt_iff.2 (lt_of_le_of_ne hle fun hsame => ?_)
    -- as tightly only if it overrode its grouping
    cases (hkeeps _ _ hshape).symm.trans (heq hsame)

lemma Ordered.bindsOver (h : Ordered stack) (hkeeps : ∀ top ∈ stack, top.KeepsGrouping) :
    stack.IsChain BindsOver :=
  h.stands.imp_of_mem_imp fun upper _ hupper _ hstands =>
    bindsOver_of_standsOn hstands (hkeeps upper hupper)

lemma level_lt_of_operators (h : (upper :: (between ++ lower :: below)).IsChain BindsOver)
    (hoperators : ∀ t ∈ upper :: between, t.isOperator = true) : level lower < level upper := by
  induction between generalizing upper with
  | nil => exact (List.isChain_cons_cons.1 h).1 (hoperators upper List.mem_cons_self)
  | cons next between ih =>
    obtain ⟨hupper, hbetween⟩ := List.forall_mem_cons.1 hoperators
    obtain ⟨hover, hrest⟩ := List.isChain_cons_cons.1 h
    exact (ih hrest hbetween).trans (hover hupper)

lemma counts_operator (h : upper.isOperator = true) (stack : List Token) :
    operators (upper :: stack) = operators stack + 1 ∧
      openings (upper :: stack) = openings stack := by
  obtain ⟨op, grouping, hshape⟩ := Token.exists_operator h
  simp [operators, openings, Token.isOperator, Token.isOpening, hshape]

lemma counts_bracket (h : upper.isOpening = true) (stack : List Token) :
    operators (upper :: stack) = operators stack ∧
      openings (upper :: stack) = openings stack + 1 := by
  have hshape := Token.isOpening_iff.1 h
  simp [operators, openings, Token.isOperator, Token.isOpening, hshape]

lemma operators_le_level (h : (upper :: stack).IsChain BindsOver)
    (hwaits : ∀ top ∈ upper :: stack, Waits top) :
    operators (upper :: stack) ≤ 3 * openings (upper :: stack) + level upper := by
  -- three operators can wait on a bracket, and one less for each level that an operator lacks
  induction stack generalizing upper with
  | nil =>
    rcases hwaits upper List.mem_cons_self with hoperator | hopening
    · obtain ⟨op, grouping, hshape⟩ := Token.exists_operator hoperator
      have hlevel := op.rank_pos
      rw [(counts_operator hoperator []).1, level_operator hshape]
      exact hlevel.trans_le (Nat.le_add_left _ _)
    · rw [(counts_bracket hopening []).1]
      exact Nat.zero_le _
  | cons next stack ih =>
    obtain ⟨hupper, hstack⟩ := List.forall_mem_cons.1 hwaits
    obtain ⟨hover, hrest⟩ := List.isChain_cons_cons.1 h
    have hbelow := ih hrest hstack
    rcases hupper with hoperator | hopening
    · obtain ⟨hoperators, hopenings⟩ := counts_operator hoperator (next :: stack)
      have hlevel := hover hoperator
      omega
    · obtain ⟨hoperators, hopenings⟩ := counts_bracket hopening (next :: stack)
      have hlevel := level_le next
      omega

lemma operators_le (h : stack.IsChain BindsOver) (hwaits : ∀ top ∈ stack, Waits top) :
    operators stack ≤ 3 * (openings stack + 1) := by
  cases stack with
  | nil => exact Nat.zero_le _
  | cons upper stack =>
    have hle := operators_le_level h hwaits
    have hlevel := level_le upper
    omega

lemma rising_of_bindsOver (h : stack.IsChain BindsOver) (hwaits : ∀ top ∈ stack, Waits top) :
    Rising stack := by
  rintro above upper between lower below op grouping op' grouping' rfl hbetween hupper hlower
  have hoperators : ∀ t ∈ upper :: between, t.isOperator = true := by
    refine List.forall_mem_cons.2 ⟨by simp [Token.isOperator, hupper], fun t ht => ?_⟩
    exact (hwaits t (by simp [ht])).resolve_right (by simp [hbetween t ht])
  have hlevel := level_lt_of_operators h.right_of_append hoperators
  rwa [level_operator hupper, level_operator hlower, Operator.rank_lt_iff] at hlevel

/-- Tokens of any kind were read, and a stack was left. Conversion goes on with this stack. Only
operators and opening brackets wait on it, and an operator that lies directly on another one binds
more tightly, or as tightly and groups to the right. If no token overrides how its operator groups,
the precedences rise strictly between brackets, so at most three operators wait for each opening
bracket and three more. -/
theorem stack_ordered (source : Run Token) {read rest : List Token}
    (hitems : source.items = read ++ rest) (hfeed : feed [] read = (sent, .ok stack)) :
    toPostfix source = (convert source.fault stack rest).prepend sent ∧
    Ordered stack ∧
    ((∀ token ∈ read, token.KeepsGrouping) →
      Rising stack ∧ operators stack ≤ 3 * (openings stack + 1)) := by
  have hordered := ordered_nil.feed hfeed
  refine ⟨?_, hordered, fun hkeeps => ?_⟩
  · rw [toPostfix, hitems, convert_append, hfeed]
  · have hover := hordered.bindsOver fun top htop =>
      hkeeps top ((mem_of_feed hfeed (List.mem_append_right sent htop)).resolve_left (by simp))
    exact ⟨rising_of_bindsOver hover hordered.waits, operators_le hover hordered.waits⟩

/-- Three operators and a bracket wait within `2 + ( 3 * 4 ^`, even if a closing bracket without a
partner comes later. An operator that groups to the right waits on one that binds as tightly. -/
theorem stack_ordered_nested :
    let read : List Token := [.operand 2 0, .operator .addition 2, .opening 4, .operand 3 6,
      .operator .multiplication 8, .operand 4 10, .operator .exponentiation 12]
    let mixed : List Token := [.operator .exponentiation 0, .rightOperator .exponentiation 2]
    (∃ sent stack, feed [] read = (sent, .ok stack) ∧ Rising stack ∧ operators stack = 3 ∧
      openings stack = 1) ∧
    ∃ stack, feed [] mixed = ([], .ok stack) ∧ Ordered stack ∧ stack = mixed.reverse := by
  intro read mixed
  have hread : ∀ token ∈ read, token.KeepsGrouping := by
    simp [read, Token.KeepsGrouping, Token.operand, Token.operator, Token.opening]
  have hstack := stack_ordered ⟨read ++ [.closing 14, .closing 16], none⟩ rfl rfl
  have hmixed := stack_ordered (Run.ofList mixed) (List.append_nil mixed).symm rfl
  exact ⟨⟨_, _, rfl, (hstack.2.2 hread).1, rfl, rfl⟩, _, rfl, hmixed.2.1, rfl⟩

end Infix

end PostfixCalculator
