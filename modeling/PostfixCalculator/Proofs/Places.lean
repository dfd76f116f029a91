import PostfixCalculator.Calculator
import PostfixCalculator.Proofs.Tokenizing

/-!
# Places do not matter

Nothing depends on the offsets of tokens but the offset that a fault reports. So a text can
be evaluated as if all of its tokens stood at its start, and two texts with the same words
have the same outcome.
-/
namespace PostfixCalculator

open Text

variable {α : Type}

/-- The token as if it had been read at the start of a text. -/
def Token.unplaced (token : Token) : Token := ⟨token.shape, 0⟩

def Fault.unplaced : Fault → Fault
  | .expression problem offset => .expression problem (offset.map fun _ => 0)
  | fault => fault

def Run.unplaced (run : Run Token) : Run Token :=
  ⟨run.items.map Token.unplaced, run.fault.map Fault.unplaced⟩

def Token.relocate (move : ℤ → ℤ) (token : Token) : Token := ⟨token.shape, move token.offset⟩

def Fault.relocate (move : ℤ → ℤ) : Fault → Fault
  | .expression problem offset => .expression problem (offset.map move)
  | fault => fault

/-- The run as if the places of its tokens had been moved. -/
def Run.relocate (move : ℤ → ℤ) (run : Run Token) : Run Token :=
  ⟨run.items.map (Token.relocate move), run.fault.map (Fault.relocate move)⟩

/-- What a result is up to the offset of its fault. -/
def outcome (result : Except Fault α) : Except Fault α := result.mapError Fault.unplaced

/-- The tokens of a text as if each of them stood at its start. -/
def reading (text : List Char) : Run Token :=
  Run.ofResults ((words text).map fun word => Token.ofPiece word 0)

def evaluateRun (arithmetic : Postfix.Arithmetic) (source : Run Token) : Except Fault Float :=
  source.toExcept >>= fun tokens => arrange tokens >>= Expression.evaluateWith arithmetic

@[simp] lemma outcome_ok (a : α) : outcome (.ok a : Except Fault α) = .ok a := rfl

@[simp] lemma outcome_error (fault : Fault) :
    outcome (.error fault : Except Fault α) = .error fault.unplaced := rfl

@[simp] lemma unplaced_shape (token : Token) : token.unplaced.shape = token.shape := rfl

@[simp] lemma outcome_outcome (r : Except Fault α) : outcome (outcome r) = outcome r := by
  cases r with
  | ok a => rfl
  | error fault => rcases fault with ⟨problem, _ | offset⟩ | _ | _ | _ | _ <;> rfl

lemma outcome_eq_ok {r : Except Fault α} {a : α} : outcome r = .ok a ↔ r = .ok a := by
  cases r <;> simp

lemma outcome_eq_expression {r : Except Fault α} :
    (∃ p o, outcome r = .error (.expression p o)) ↔ ∃ p o, r = .error (.expression p o) := by
  cases r with
  | ok a => simp
  | error fault => cases fault <;> simp [Fault.unplaced]

lemma map_unplaced_eq_iff {ts us : List Token} :
    ts.map Token.unplaced = us.map Token.unplaced ↔ ts.map Token.shape = us.map Token.shape := by
  constructor
  · intro h
    have hshapes := congrArg (List.map Token.shape) h
    rwa [List.map_map, List.map_map] at hshapes
  · intro h
    have htokens := congrArg (List.map fun shape : Shape => (⟨shape, 0⟩ : Token)) h
    rwa [List.map_map, List.map_map] at htokens

section Tokenizing

lemma Run.unplaced_ofResults (rs : List (Except Fault Token)) :
    (Run.ofResults rs).unplaced =
      Run.ofResults (rs.map fun r => outcome (r.map Token.unplaced)) := by
  induction rs with
  | nil => rfl
  | cons r rs ih =>
    cases r with
    | error fault => rfl
    | ok token => exact congrArg (Run.prepend [token.unplaced]) ih

lemma ofPiece_unplaced (word : List Char) (offset : ℤ) :
    outcome ((Token.ofPiece word offset).map Token.unplaced) = Token.ofPiece word 0 := by
  unfold Token.ofPiece Token.ofSymbol
  cases Number.Literal.read? word with
  | some literal => rfl
  | none =>
    dsimp only
    split_ifs
    · rfl
    · rfl
    · rfl
    · cases Operator.ofSymbol? word <;> rfl

theorem tokenize_unplaced (text : List Char) : (tokenize text).unplaced = reading text := by
  rw [tokenize_eq_ofResults, Run.unplaced_ofResults, reading, words, List.map_map, List.map_map]
  congr 1
  exact List.map_congr_left fun p _ => ofPiece_unplaced p.text p.start

end Tokenizing

namespace Infix

variable (move : ℤ → ℤ)

lemma sendWhile_relocate (leaves leaves' : Token → Bool)
    (h : ∀ token : Token, leaves' (token.relocate move) = leaves token) (stack : List Token) :
    sendWhile leaves' (stack.map (Token.relocate move)) =
      ((sendWhile leaves stack).1.map (Token.relocate move),
        (sendWhile leaves stack).2.map (Token.relocate move)) := by
  have hleaves : leaves' ∘ Token.relocate move = leaves := funext h
  simp only [sendWhile, List.takeWhile_map, List.dropWhile_map, hleaves]

lemma step_relocate (stack : List Token) (token : Token) :
    step (stack.map (Token.relocate move)) (token.relocate move) =
      ((step stack token).1.map (Token.relocate move),
        ((step stack token).2.map (List.map (Token.relocate move))).mapError
          (Fault.relocate move)) := by
  obtain ⟨shape, offset⟩ := token
  cases shape with
  | operand value => rfl
  | opening => rfl
  | bare => rfl
  | operator op grouping =>
    have hsend := sendWhile_relocate move (shouldPop ⟨.operator op grouping, offset⟩)
      (shouldPop ⟨.operator op grouping, move offset⟩) (fun _ => rfl) stack
    simp only [step, Token.relocate] at hsend ⊢
    rw [hsend]
    rfl
  | closing =>
    have hsend := sendWhile_relocate move (fun top => !top.isOpening)
      (fun top => !top.isOpening) (fun _ => rfl) stack
    simp only [step, Token.relocate] at hsend ⊢
    rw [hsend]
    cases (sendWhile (fun top => !top.isOpening) stack).2 <;> rfl

lemma drain_relocate (stack : List Token) :
    drain (stack.map (Token.relocate move)) = (drain stack).relocate move := by
  have hsend := sendWhile_relocate move (fun top => !top.isOpening)
    (fun top => !top.isOpening) (fun _ => rfl) stack
  unfold drain
  rw [hsend]
  dsimp only
  cases (sendWhile (fun top => !top.isOpening) stack).2 <;> rfl

/-- Conversion looks at the shapes of tokens and carries their places along. -/
theorem convert_relocate (fault : Option Fault) (stack tokens : List Token) :
    convert (fault.map (Fault.relocate move)) (stack.map (Token.relocate move))
        (tokens.map (Token.relocate move)) = (convert fault stack tokens).relocate move := by
  induction tokens generalizing stack with
  | nil =>
    cases fault with
    | none => exact drain_relocate move stack
    | some f => rfl
  | cons token rest ih =>
    rw [List.map_cons, convert, convert, step_relocate]
    rcases step stack token with ⟨sent, f | stack'⟩
    · rfl
    · simp only [Except.map, Except.mapError, ih]
      simp [Run.prepend, Run.relocate]

theorem convert_unplaced (fault : Option Fault) (stack tokens : List Token) :
    convert (fault.map Fault.unplaced) (stack.map Token.unplaced) (tokens.map Token.unplaced) =
      (convert fault stack tokens).unplaced := by
  have htoken : Token.unplaced = Token.relocate fun _ => 0 := rfl
  have hfault : Fault.unplaced = Fault.relocate fun _ => 0 := by
    funext f
    cases f <;> rfl
  rw [Run.unplaced, htoken, hfault, convert_relocate, Run.relocate]

end Infix

lemma Run.toExcept_unplaced (run : Run Token) :
    run.unplaced.toExcept = outcome (run.toExcept.map (List.map Token.unplaced)) := by
  obtain ⟨items, fault⟩ := run
  cases fault <;> rfl

lemma arrange_unplaced (tokens : List Token) :
    arrange (tokens.map Token.unplaced) =
      outcome ((arrange tokens).map fun e => ⟨e.tokens.map Token.unplaced⟩) := by
  have hconvert := Infix.convert_unplaced none [] tokens
  simp only [Option.map_none, List.map_nil] at hconvert
  simp only [arrange, Expression.ofRun, Infix.toPostfix, Run.ofList, hconvert,
    Run.toExcept_unplaced]
  cases (Infix.convert none [] tokens).toExcept <;> rfl

namespace Postfix

lemma step_unplaced (arithmetic : Arithmetic) (values : List Float) (token : Token) :
    step arithmetic values token.unplaced = outcome (step arithmetic values token) := by
  obtain ⟨shape, offset⟩ := token
  cases shape with
  | operator op grouping =>
    rcases values with _ | ⟨rhs, _ | ⟨lhs, below⟩⟩ <;> rfl
  | _ => rfl

lemma result_unplaced (last : ℤ) (values : List Float) :
    result 0 values = outcome (result last values) := by
  rcases values with _ | ⟨value, _ | ⟨value', below⟩⟩ <;> rfl

theorem run_unplaced (arithmetic : Arithmetic) (fault : Option Fault) (last : ℤ)
    (values : List Float) (tokens : List Token) :
    run arithmetic (fault.map Fault.unplaced) 0 values (tokens.map Token.unplaced) =
      outcome (run arithmetic fault last values tokens) := by
  induction tokens generalizing last values with
  | nil =>
    cases fault with
    | none => exact result_unplaced last values
    | some f => rfl
  | cons token rest ih =>
    rw [List.map_cons, run, run, step_unplaced]
    cases step arithmetic values token with
    | error f => rfl
    | ok values' => exact ih token.offset values'

end Postfix

theorem Expression.evaluateWith_unplaced (arithmetic : Postfix.Arithmetic) (e : Expression) :
    Expression.evaluateWith arithmetic ⟨e.tokens.map Token.unplaced⟩ =
      outcome (e.evaluateWith arithmetic) :=
  Postfix.run_unplaced arithmetic none 0 [] e.tokens

theorem evaluateRun_unplaced (arithmetic : Postfix.Arithmetic) (source : Run Token) :
    evaluateRun arithmetic source.unplaced = outcome (evaluateRun arithmetic source) := by
  unfold evaluateRun
  rw [Run.toExcept_unplaced]
  cases source.toExcept with
  | error f => rfl
  | ok tokens =>
    show arrange (tokens.map Token.unplaced) >>= _ = outcome (arrange tokens >>= _)
    rw [arrange_unplaced]
    cases arrange tokens with
    | error f => rfl
    | ok e => exact e.evaluateWith_unplaced arithmetic

lemma evaluateRun_ofList (arithmetic : Postfix.Arithmetic) (tokens : List Token) :
    evaluateRun arithmetic (Run.ofList tokens) =
      (Infix.convert none [] tokens).toExcept >>= fun out =>
        Postfix.evaluateWith arithmetic (Run.ofList out) := by
  show ((Infix.convert none [] tokens).toExcept.map _ >>= _) = _
  cases (Infix.convert none [] tokens).toExcept <;> rfl

lemma evaluateTextWith_eq (arithmetic : Postfix.Arithmetic) (text : List Char) :
    evaluateTextWith arithmetic text = evaluateRun arithmetic (tokenize text) := by
  unfold evaluateTextWith parse evaluateRun Run.toExcept
  obtain ⟨items, fault⟩ := tokenize text
  cases fault with
  | some f => rfl
  | none =>
    -- without tokens the arranged expression is empty, and evaluating it fails alike
    cases items <;> rfl

/-- The outcome of a text is that of its words. -/
theorem outcome_evaluateTextWith (arithmetic : Postfix.Arithmetic) (text : List Char) :
    outcome (evaluateTextWith arithmetic text) = evaluateRun arithmetic (reading text) := by
  rw [evaluateTextWith_eq, ← evaluateRun_unplaced, tokenize_unplaced]

end PostfixCalculator
