import PostfixCalculator.Proofs.Conversion
import PostfixCalculator.Proofs.Evaluation
import PostfixCalculator.Proofs.Reading

/-!
# A group stands for its value

A bracketed text that has a value can be replaced by that value in every context, also in
contexts that are no expressions.
-/
namespace PostfixCalculator

open Text Postfix

variable {arithmetic : Arithmetic} {value : Float}

/-- A block that sends on the same tokens whatever waits, and leaves the stack as it was. -/
def Passes (block out : List Token) : Prop := ∀ stack, Infix.feed stack block = (out, .ok stack)

namespace Passes

variable {block block' out out' : List Token}

lemma convert_block (h : Passes block out) (stack after : List Token) :
    Infix.convert none stack (block ++ after) = (Infix.convert none stack after).prepend out := by
  rw [Infix.convert_append, h stack]

/-- Blocks that act alike on every stack of values can stand for each other. -/
theorem outcome_replace (h : Passes block out) (h' : Passes block' out')
    (heffect : ∀ values, exec arithmetic values out = exec arithmetic values out')
    (before after : List Token) :
    outcome (evaluateRun arithmetic (Run.ofList (before ++ (block ++ after)))) =
      outcome (evaluateRun arithmetic (Run.ofList (before ++ (block' ++ after)))) := by
  rw [evaluateRun_ofList, evaluateRun_ofList, Infix.convert_append, Infix.convert_append]
  rcases Infix.feed [] before with ⟨sent, f | stack⟩
  · rfl
  · -- the operators that wait are the same behind either block
    dsimp only
    rw [h.convert_block, h'.convert_block]
    rcases Infix.convert none stack after with ⟨items, _ | fault⟩
    · show outcome (evaluateWith arithmetic (Run.ofList (sent ++ (out ++ items)))) =
        outcome (evaluateWith arithmetic (Run.ofList (sent ++ (out' ++ items))))
      simp only [outcome_evaluateWith, exec_append, heffect]
    · rfl

theorem outcome_replace_run (h : Passes block out) (h' : Passes block' out')
    (heffect : ∀ values, exec arithmetic values out = exec arithmetic values out')
    (before after : Run Token) :
    outcome (evaluateRun arithmetic (before.andThen ((Run.ofList block).andThen after))) =
      outcome (evaluateRun arithmetic (before.andThen ((Run.ofList block').andThen after))) := by
  obtain ⟨items, _ | fault⟩ := before
  · obtain ⟨rest, _ | fault'⟩ := after
    · exact h.outcome_replace h' heffect items rest
    · rfl
  · rfl

end Passes

lemma evaluateRun_eq_ok {source : Run Token} (h : evaluateRun arithmetic source = .ok value) :
    ∃ tokens out, source = Run.ofList tokens ∧ Infix.convert none [] tokens = Run.ofList out ∧
      exec arithmetic [] out = .ok [value] := by
  obtain ⟨tokens, _ | fault⟩ := source
  · refine ⟨tokens, ?_⟩
    change evaluateRun arithmetic (Run.ofList tokens) = _ at h
    rw [evaluateRun_ofList] at h
    rcases hconvert : Infix.convert none [] tokens with ⟨out, _ | fault⟩ <;> rw [hconvert] at h
    · exact ⟨out, rfl, rfl, evaluateWith_eq_ok.1 h⟩
    · cases h
  · cases h

lemma passes_operand (value : Float) : Passes [.operand value 0] [.operand value 0] :=
  fun _ => rfl

lemma passes_group {tokens out : List Token} (h : Infix.convert none [] tokens = Run.ofList out) :
    Passes (Lexeme.opening.token :: (tokens ++ [Lexeme.closing.token])) out :=
  Infix.feed_group h 0 0

/-- A bracketed text stands for its value. -/
theorem outcome_group {inner : List Char} (h : evaluateTextWith arithmetic inner = .ok value)
    (before after : List Char) :
    outcome (evaluateTextWith arithmetic
        (before ++ " ( ".toList ++ inner ++ " ) ".toList ++ after)) =
      outcome (evaluateTextWith arithmetic
        (before ++ [' '] ++ Number.render value ++ [' '] ++ after)) := by
  rw [← outcome_eq_ok, outcome_evaluateTextWith] at h
  obtain ⟨tokens, out, htokens, hconvert, hexec⟩ := evaluateRun_eq_ok h
  have hgroup : before ++ " ( ".toList ++ inner ++ " ) ".toList ++ after =
      before ++ ' ' :: ((['('] ++ ' ' :: (inner ++ ' ' :: [')'])) ++ ' ' :: after) := by simp
  have hvalue : before ++ [' '] ++ Number.render value ++ [' '] ++ after =
      before ++ ' ' :: (Number.render value ++ ' ' :: after) := by simp
  have hreplace := (passes_group hconvert).outcome_replace_run (passes_operand value)
    (exec_eq_operand hexec · 0) (reading before) (reading after)
  rw [← reading_group htokens, ← reading_render, ← reading_between, ← reading_between,
    ← outcome_evaluateTextWith, ← outcome_evaluateTextWith, outcome_outcome,
    outcome_outcome] at hreplace
  rw [hgroup, hvalue, hreplace]

theorem outcome_group_unclosed :
    evaluateText "1 + 2".toList = .ok 3 ∧
      outcome (evaluateText ("2 ^ ( 5".toList ++ " ( ".toList ++ "1 + 2".toList ++ " ) ".toList ++
          "* )".toList)) =
        outcome (evaluateText ("2 ^ ( 5".toList ++ [' '] ++ Number.render 3 ++ [' '] ++
          "* )".toList)) := by
  have hpieces : pieces "1 + 2".toList = [⟨['1'], 0⟩, ⟨['+'], 2⟩, ⟨['2'], 4⟩] := by cbv
  have hinner : evaluateText "1 + 2".toList = .ok 3 := by
    have hthree : (1 : Float) + 2 = 3 := by decide +kernel
    rw [← hthree, evaluateText, evaluateTextWith, parse, tokenize_eq_ofResults, hpieces]
    rfl
  exact ⟨hinner, outcome_group hinner "2 ^ ( 5".toList "* )".toList⟩

end PostfixCalculator
