import PostfixCalculator.Proofs.Evaluation
import PostfixCalculator.Proofs.Ordering

/-!
# Which texts have a value

A text that the grammar derives has the value of its derivation. In general a text has a
value exactly when its layout leaves one value: atoms may stand side by side where an operator
later finds both of them.
-/
namespace PostfixCalculator

open Text Postfix

variable {c : Category} {text : List Char} {xs : List Lexeme}

lemma evaluateRun_lexemes (arithmetic : Arithmetic) (l : Layout .expression) :
    evaluateRun arithmetic (Run.ofList (l.lexemes.map Lexeme.token)) =
      evaluateWith arithmetic (Run.ofList l.postOrder) := by
  rw [evaluateRun_ofList, Infix.convert_lexemes]
  rfl

/-- The outcome of a text is that of the postfix order of its layout. -/
theorem outcome_layout (arithmetic : Arithmetic) (l : Layout .expression)
    (h : words text = l.lexemes.map Lexeme.word) :
    outcome (evaluateTextWith arithmetic text) =
      evaluateWith arithmetic (Run.ofList l.postOrder) := by
  rw [outcome_evaluateTextWith, reading_of_words h, evaluateRun_lexemes]

lemma Derivation.exec_postOrder (arithmetic : Arithmetic) (d : Derivation c)
    (values : List Float) :
    exec arithmetic values d.layout.postOrder = .ok (d.value arithmetic :: values) := by
  induction d generalizing values with
  | number word value reads => rfl
  | bracketed inner ih => exact ih values
  | single h inner ih => exact ih values
  | joined op h left right ihl ihr =>
    rw [layout, Layout.postOrder, exec_append, ihl]
    show exec arithmetic _ (right.layout.postOrder ++ _) = _
    rw [exec_append, ihr]
    rfl

/-- A text that the grammar derives has the value of its derivation. -/
theorem evaluateTextWith_derivation (arithmetic : Arithmetic) (d : Derivation .expression)
    (h : words text = d.lexemes.map Lexeme.word) :
    evaluateTextWith arithmetic text = .ok (d.value arithmetic) := by
  rw [← d.lexemes_layout] at h
  rw [← outcome_eq_ok, outcome_layout arithmetic d.layout h, evaluateWith_eq_ok]
  exact d.exec_postOrder arithmetic []

theorem evaluateTextWith_derivation_group :
    words "8 - 2 * ( 1 + 2 ) - 1".toList =
        ["8", "-", "2", "*", "(", "1", "+", "2", ")", "-", "1"].map String.toList ∧
      evaluateText "8 - 2 * ( 1 + 2 ) - 1".toList = .ok 1 := by
  have h : words "8 - 2 * ( 1 + 2 ) - 1".toList =
      ["8", "-", "2", "*", "(", "1", "+", "2", ")", "-", "1"].map String.toList := by cbv
  have hvalue := evaluateTextWith_derivation Operator.apply
    (.joined .subtraction rfl
      (.joined .subtraction rfl (.ofAtom (.number ['8'] 8 rfl) _)
        (.joined .multiplication rfl (.ofAtom (.number ['2'] 2 rfl) _)
          (.ofAtom (.bracketed (.joined .addition rfl (.ofAtom (.number ['1'] 1 rfl) _)
            (.ofAtom (.number ['2'] 2 rfl) _))) _)))
      (.ofAtom (.number ['1'] 1 rfl) _)) h
  have hone : (8 : Float) - 2 * (1 + 2) - 1 = 1 := by decide +kernel
  rw [← hone]
  exact ⟨h, hvalue⟩

/-- A stack of the given height, or a problem where there is none. -/
def Leaves (result : Except Fault (List Float)) : Option ℕ → Prop
  | some n => ∃ values, result = .ok values ∧ values.length = n
  | none => ∃ problem offset, result = .error (.expression problem offset)

lemma Leaves.bind {result : Except Fault (List Float)} {height : Option ℕ}
    {f : List Float → Except Fault (List Float)} {g : ℕ → Option ℕ} (h : Leaves result height)
    (hnext : ∀ values, Leaves (f values) (g values.length)) :
    Leaves (result >>= f) (height >>= g) := by
  cases height with
  | none =>
    obtain ⟨problem, offset, rfl⟩ := h
    exact ⟨problem, offset, rfl⟩
  | some n =>
    obtain ⟨values, rfl, rfl⟩ := h
    exact hnext values

lemma leaves_operator (arithmetic : Arithmetic) (op : Operator) (values : List Float) :
    Leaves (exec arithmetic values [.operator op 0])
      (if 2 ≤ values.length then some (values.length - 1) else none) := by
  rcases values with _ | ⟨rhs, _ | ⟨lhs, below⟩⟩
  · exact ⟨_, _, rfl⟩
  · exact ⟨_, _, rfl⟩
  · rw [if_pos (by simp)]
    exact ⟨arithmetic op lhs rhs :: below, rfl, by simp⟩

/-- The height of a layout is that of the stack that its tokens leave. -/
theorem leaves_postOrder (arithmetic : Arithmetic) (l : Layout c) (values : List Float) :
    Leaves (exec arithmetic values l.postOrder) (l.height values.length) := by
  induction l generalizing values with
  | nothing => exact ⟨values, rfl, rfl⟩
  | number before word value reads ih =>
    rw [Layout.postOrder, exec_append]
    exact (ih values).bind fun after => ⟨value :: after, rfl, rfl⟩
  | bracketed before inner ihb ih =>
    rw [Layout.postOrder, exec_append]
    exact (ihb values).bind ih
  | single h inner ih => exact ih values
  | joined op h left right ihl ihr =>
    rw [Layout.postOrder, exec_append]
    refine (ihl values).bind fun after => ?_
    rw [exec_append]
    exact (ihr after).bind fun final => leaves_operator arithmetic op final

def Derivable (xs : List Lexeme) : Prop := ∃ d : Derivation .expression, d.lexemes = xs

/-- The lexemes have a layout in which every operator finds two values, and one value is left. -/
def LeavesOne (xs : List Lexeme) : Prop :=
  ∃ l : Layout .expression, l.lexemes = xs ∧ l.height 0 = some 1

/-- Without atoms side by side the lexemes that leave one value are those that the grammar
derives. -/
theorem derivable_iff : Derivable xs ↔ LeavesOne xs ∧ Spaced xs := by
  constructor
  · rintro ⟨d, rfl⟩
    exact ⟨⟨d.layout, d.lexemes_layout, d.height_layout 0⟩, d.spaced_lexemes⟩
  · rintro ⟨⟨l, rfl, hone⟩, hspaced⟩
    exact (l.height_le_of_spaced hspaced hone).2 rfl

lemma evaluateWith_of_leaves {arithmetic : Arithmetic} {tokens : List Token} {height : Option ℕ}
    (h : Leaves (exec arithmetic [] tokens) height) :
    (height = some 1 ∧ ∃ value, evaluateWith arithmetic (Run.ofList tokens) = .ok value) ∨
      (height ≠ some 1 ∧ ∃ problem offset,
        evaluateWith arithmetic (Run.ofList tokens) = .error (.expression problem offset)) := by
  rw [evaluateWith, Run.ofList, run_eq_exec]
  cases height with
  | none =>
    obtain ⟨problem, offset, hexec⟩ := h
    rw [hexec]
    exact .inr ⟨by simp, problem, offset, rfl⟩
  | some n =>
    obtain ⟨values, hexec, rfl⟩ := h
    rw [hexec]
    rcases values with _ | ⟨value, _ | ⟨next, below⟩⟩
    · exact .inr ⟨by simp, _, _, rfl⟩
    · exact .inl ⟨rfl, value, rfl⟩
    · exact .inr ⟨by simp, _, _, rfl⟩

lemma value_or_problem_of_layout (arithmetic : Arithmetic) (l : Layout .expression)
    (h : words text = l.lexemes.map Lexeme.word) :
    (l.height 0 = some 1 ∧ ∃ value, evaluateTextWith arithmetic text = .ok value) ∨
      (l.height 0 ≠ some 1 ∧ ∃ problem offset,
        evaluateTextWith arithmetic text = .error (.expression problem offset)) := by
  rcases evaluateWith_of_leaves (leaves_postOrder arithmetic l []) with
    ⟨hone, value, hvalue⟩ | ⟨hne, hfault⟩
  · rw [← outcome_layout arithmetic l h, outcome_eq_ok] at hvalue
    exact .inl ⟨hone, value, hvalue⟩
  · rw [← outcome_layout arithmetic l h, outcome_eq_expression] at hfault
    exact .inr ⟨hne, hfault⟩

/-- Lexemes that leave one value have a value, and all others are reported as a problem. -/
theorem value_or_problem (arithmetic : Arithmetic) (h : words text = xs.map Lexeme.word) :
    (LeavesOne xs ∧ ∃ value, evaluateTextWith arithmetic text = .ok value) ∨
      (¬ LeavesOne xs ∧ ∃ problem offset,
        evaluateTextWith arithmetic text = .error (.expression problem offset)) := by
  by_cases hone : LeavesOne xs
  · obtain ⟨l, rfl, hheight⟩ := hone
    rcases value_or_problem_of_layout arithmetic l h with ⟨-, hvalue⟩ | ⟨hne, -⟩
    · exact .inl ⟨⟨l, rfl, hheight⟩, hvalue⟩
    · exact absurd hheight hne
  · refine .inr ⟨hone, ?_⟩
    -- without a layout a bracket is left over, and with one its height is not one
    rcases Infix.layout_or_fault xs with ⟨l, rfl⟩ | ⟨sent, problem, offset, hconvert⟩
    · rcases value_or_problem_of_layout arithmetic l h with ⟨hheight, -⟩ | ⟨-, hfault⟩
      · exact absurd ⟨l, rfl, hheight⟩ hone
      · exact hfault
    · refine outcome_eq_expression.1 ⟨problem, offset, ?_⟩
      rw [outcome_evaluateTextWith, reading_of_words h, evaluateRun_ofList, hconvert]
      rfl

/-- A text of lexemes has a value exactly when its layout leaves one value, and is otherwise
reported as a problem. Those of them that the grammar does not derive have two atoms side by
side. -/
theorem evaluateTextWith_ok_iff (arithmetic : Arithmetic) (h : words text = xs.map Lexeme.word) :
    ((∃ value, evaluateTextWith arithmetic text = .ok value) ↔ LeavesOne xs) ∧
      ((∃ problem offset, evaluateTextWith arithmetic text = .error (.expression problem offset)) ↔
        ¬ LeavesOne xs) ∧
      (Derivable xs ↔ LeavesOne xs ∧ Spaced xs) := by
  refine ⟨?_, ?_, derivable_iff⟩
  · rcases value_or_problem arithmetic h with ⟨hone, hvalue⟩ | ⟨hone, problem, offset, hfault⟩
    · exact ⟨fun _ => hone, fun _ => hvalue⟩
    · rw [hfault]
      exact ⟨fun ⟨_, hok⟩ => (nomatch hok), fun h => absurd h hone⟩
  · rcases value_or_problem arithmetic h with ⟨hone, value, hvalue⟩ | ⟨hone, hfault⟩
    · rw [hvalue]
      exact ⟨fun ⟨_, _, herror⟩ => (nomatch herror), fun h => absurd hone h⟩
    · exact ⟨fun _ => hone, fun _ => hfault⟩

theorem evaluateTextWith_ok_iff_group :
    words "( 1 2 ) +".toList =
        [.opening, .number ['1'] 1 rfl, .number ['2'] 2 rfl, .closing,
          .operator .addition].map Lexeme.word ∧
      LeavesOne [.opening, .number ['1'] 1 rfl, .number ['2'] 2 rfl, .closing,
        .operator .addition] ∧
      ∃ value, evaluateText "( 1 2 ) +".toList = .ok value := by
  have h : words "( 1 2 ) +".toList =
      [.opening, .number ['1'] 1 rfl, .number ['2'] 2 rfl, .closing,
        .operator .addition].map Lexeme.word := by cbv
  have hone : LeavesOne [.opening, .number ['1'] 1 rfl, .number ['2'] 2 rfl, .closing,
      .operator .addition] :=
    ⟨.joined .addition rfl
      (.ofAtom (.bracketed .nothing
        (.ofAtom (.number (.number .nothing ['1'] 1 rfl) ['2'] 2 rfl) _)) _)
      (.ofAtom .nothing _), rfl, rfl⟩
  exact ⟨h, hone, (evaluateTextWith_ok_iff Operator.apply h).1.2 hone⟩

/-- Postfix order is not derived by the grammar and has a value all the same. -/
theorem evaluateText_operands_first :
    words "1 2 +".toList =
        [.number ['1'] 1 rfl, .number ['2'] 2 rfl, .operator .addition].map Lexeme.word ∧
      ¬ Derivable [.number ['1'] 1 rfl, .number ['2'] 2 rfl, .operator .addition] ∧
      evaluateText "1 2 +".toList = .ok 3 := by
  have h : words "1 2 +".toList =
      [.number ['1'] 1 rfl, .number ['2'] 2 rfl, .operator .addition].map Lexeme.word := by cbv
  refine ⟨h, fun hderivable => ?_, ?_⟩
  · obtain ⟨-, hspaced⟩ := derivable_iff.1 hderivable
    exact (List.isChain_cons_cons.1 hspaced).1 ⟨rfl, rfl⟩
  · have hthree : (1 : Float) + 2 = 3 := by decide +kernel
    rw [← hthree, ← outcome_eq_ok, evaluateText]
    exact outcome_layout Operator.apply (.joined .addition rfl
      (.ofAtom (.number (.number .nothing ['1'] 1 rfl) ['2'] 2 rfl) _)
      (.ofAtom .nothing _)) h

end PostfixCalculator
