import PostfixCalculator.Infix
import Mathlib.Data.List.TakeWhile
import Mathlib.Tactic

/-!
# Feeding tokens to the operator stack

Feeding is conversion without the end of the input: it tells what some tokens send on and
the stack they leave. An opening bracket hides what lies below it, so the tokens of a group
behave as they do alone.
-/
namespace PostfixCalculator

lemma Token.isOpening_iff {token : Token} : token.isOpening = true ↔ token.shape = .opening := by
  unfold isOpening
  cases token.shape <;> simp

namespace Infix

/-- What some tokens send on, and the stack after them unless one of them fails. -/
def feed (stack : List Token) : List Token → List Token × Except Fault (List Token)
  | [] => ([], .ok stack)
  | token :: rest =>
    match step stack token with
    | (sent, .ok stack) => (sent ++ (feed stack rest).1, (feed stack rest).2)
    | (sent, .error f) => (sent, .error f)

variable {token bracket : Token} {stack after below sent out tokens rest : List Token}

lemma sendWhile_append {leaves : Token → Bool} (h : ∀ token ∈ stack, leaves token = true)
    (below : List Token) :
    sendWhile leaves (stack ++ below) =
      (stack ++ (sendWhile leaves below).1, (sendWhile leaves below).2) := by
  unfold sendWhile
  rw [List.takeWhile_append_of_pos h, List.dropWhile_append_of_pos h]

lemma sendWhile_of_head {leaves : Token → Bool} {sent waiting : List Token}
    (hleave : ∀ top ∈ sent, leaves top = true) (hstay : ∀ top ∈ waiting.head?, leaves top = false) :
    sendWhile leaves (sent ++ waiting) = (sent, waiting) := by
  rw [sendWhile_append hleave]
  cases waiting with
  | nil => simp [sendWhile]
  | cons top waiting =>
    have htop := hstay top rfl
    simp [sendWhile, htop]

lemma head_dropWhile {leaves : Token → Bool} {top : Token}
    (h : top ∈ (stack.dropWhile leaves).head?) : leaves top = false := by
  have hhead := List.head?_dropWhile_not leaves stack
  rw [Option.mem_def] at h
  rw [h] at hhead
  simpa using hhead

/-- What a token can do to the stack: an operand passes, an opening bracket joins, an operator
joins those that it does not send on, and a closing bracket goes away with its partner. -/
inductive Moves (token : Token) : (stack sent after : List Token) → Prop
  | operand {value : Float} (shape : token.shape = .operand value) (stack : List Token) :
      Moves token stack [token] stack
  | opening (shape : token.shape = .opening) (stack : List Token) :
      Moves token stack [] (token :: stack)
  | operator {op : Operator} {grouping : Associativity}
      (shape : token.shape = .operator op grouping) (sent waiting : List Token)
      (leave : ∀ top ∈ sent, shouldPop token top = true)
      (stay : ∀ top ∈ waiting.head?, shouldPop token top = false) :
      Moves token (sent ++ waiting) sent (token :: waiting)
  | closing (shape : token.shape = .closing) (sent : List Token) (partner : Token)
      (after : List Token) (leave : ∀ top ∈ sent, top.isOpening = false)
      (opened : partner.isOpening = true) :
      Moves token (sent ++ partner :: after) sent after

lemma moves_of_step (h : step stack token = (sent, .ok after)) : Moves token stack sent after := by
  unfold step sendWhile at h
  cases hshape : token.shape with
  | operand value =>
    rw [hshape] at h
    cases h
    exact .operand hshape stack
  | opening =>
    rw [hshape] at h
    cases h
    exact .opening hshape stack
  | operator op grouping =>
    rw [hshape] at h
    cases h
    have hmoves := Moves.operator hshape
      (stack.takeWhile (shouldPop token)) (stack.dropWhile (shouldPop token))
      (fun top htop => List.mem_takeWhile_imp htop) (fun top htop => head_dropWhile htop)
    rwa [List.takeWhile_append_dropWhile] at hmoves
  | closing =>
    rw [hshape] at h
    dsimp only at h
    cases hwait : stack.dropWhile fun top => !top.isOpening with
    | nil => rw [hwait] at h; cases h
    | cons partner below =>
      rw [hwait] at h
      cases h
      have hpartner : partner ∈ (stack.dropWhile fun top => !top.isOpening).head? := by
        rw [hwait]
        rfl
      have hmoves := Moves.closing hshape
        (stack.takeWhile fun top => !top.isOpening) partner after
        (fun top htop => by
          simpa using List.mem_takeWhile_imp (p := fun top : Token => !top.isOpening) htop)
        (by simpa using head_dropWhile hpartner)
      rwa [← hwait, List.takeWhile_append_dropWhile] at hmoves
  | bare => rw [hshape] at h; cases h

lemma step_of_moves (h : Moves token stack sent after) : step stack token = (sent, .ok after) := by
  unfold step
  cases h with
  | operand shape => rw [shape]
  | opening shape => rw [shape]
  | operator shape sent waiting leave stay =>
    rw [shape]
    dsimp only
    rw [sendWhile_of_head leave stay]
  | closing shape sent partner after leave opened =>
    have hsend : sendWhile (fun top => !top.isOpening) (sent ++ partner :: after) =
        (sent, partner :: after) :=
      sendWhile_of_head (by simpa using leave) (by simpa using opened)
    rw [shape]
    dsimp only
    rw [hsend]

theorem step_eq_ok_iff : step stack token = (sent, .ok after) ↔ Moves token stack sent after :=
  ⟨moves_of_step, step_of_moves⟩

/-- Conversion feeds what comes first and goes on with the stack that it leaves. What comes
after a token that fails has no influence. -/
lemma convert_append (fault : Option Fault) (stack a b : List Token) :
    convert fault stack (a ++ b) =
      match feed stack a with
      | (sent, .ok after) => (convert fault after b).prepend sent
      | (sent, .error f) => ⟨sent, some f⟩ := by
  induction a generalizing stack with
  | nil => rfl
  | cons token a ih =>
    rw [List.cons_append, convert, feed]
    rcases step stack token with ⟨sent, f | next⟩
    · rfl
    · dsimp only
      rw [ih next]
      rcases feed next a with ⟨later, f | after⟩ <;> simp [Run.prepend]

lemma feed_cons_eq_ok (h : feed stack (token :: rest) = (sent, .ok after)) :
    ∃ first next later, step stack token = (first, .ok next) ∧
      feed next rest = (later, .ok after) ∧ sent = first ++ later := by
  rw [feed] at h
  rcases hstep : step stack token with ⟨first, f | next⟩
  · simp [hstep] at h
  · rcases hrest : feed next rest with ⟨later, result⟩
    simp only [hstep, hrest, Prod.mk.injEq] at h
    obtain ⟨rfl, rfl⟩ := h
    exact ⟨first, next, later, rfl, hrest, rfl⟩

lemma feed_append (h : feed stack tokens = (sent, .ok after)) (rest : List Token) :
    feed stack (tokens ++ rest) = (sent ++ (feed after rest).1, (feed after rest).2) := by
  induction tokens generalizing stack sent with
  | nil => cases h; rfl
  | cons token tokens ih =>
    obtain ⟨first, next, later, hstep, hlater, rfl⟩ := feed_cons_eq_ok h
    rw [List.cons_append, feed, hstep]
    simp only [ih hlater, List.append_assoc]

lemma feed_singleton (h : step stack token = (sent, .ok after)) :
    feed stack [token] = (sent, .ok after) := by
  rw [feed, h]
  simp [feed]

lemma convert_of_feed (h : feed stack tokens = (sent, .ok after))
    (hafter : ∀ token ∈ after, token.isOpening = false) :
    convert none stack tokens = Run.ofList (sent ++ after) := by
  have hall : ∀ token ∈ after, (!token.isOpening) = true := by simpa using hafter
  have hfeed := convert_append none stack tokens []
  rw [List.append_nil, h] at hfeed
  rw [hfeed]
  dsimp only
  rw [convert, drain, ← List.append_nil after, sendWhile_append hall]
  simp [sendWhile, Run.prepend, Run.ofList]

/-- An opening bracket that still waits is left over. -/
lemma drain_opening (h : ∃ bracket ∈ stack, bracket.isOpening = true) :
    ∃ sent, ∃ left ∈ stack, left.isOpening = true ∧
      drain stack = ⟨sent, some (.expression .unmatchedOpening (some left.offset))⟩ := by
  obtain ⟨bracket, hmem, hbracket⟩ := h
  unfold drain sendWhile
  cases hwait : stack.dropWhile (fun top => !top.isOpening) with
  | nil =>
    have hleaves := List.dropWhile_eq_nil_iff.1 hwait bracket hmem
    simp [hbracket] at hleaves
  | cons left rest =>
    have hleft : left ∈ stack.dropWhile (fun top => !top.isOpening) := by simp [hwait]
    have hhead : left ∈ (stack.dropWhile fun top => !top.isOpening).head? := by
      rw [hwait]
      rfl
    exact ⟨_, left, List.dropWhile_subset _ hleft, by simpa using head_dropWhile hhead, rfl⟩

lemma step_unmatched (hshape : token.shape = .closing)
    (hstack : ∀ waiting ∈ stack, waiting.isOpening = false) :
    step stack token =
      (stack, .error (.expression .unmatchedClosing (some token.offset))) := by
  have hall : ∀ waiting ∈ stack, (!waiting.isOpening) = true := by simpa using hstack
  rw [step, hshape]
  dsimp only
  rw [← List.append_nil stack, sendWhile_append hall]
  simp [sendWhile]

/-- A token that fails is a closing bracket without a partner, or has no shape. -/
lemma step_eq_error {f : Fault} (h : step stack token = (sent, .error f)) :
    (token.shape = .bare ∧ f = .shapelessToken) ∨
      (token.shape = .closing ∧ (∀ top ∈ stack, top.isOpening = false) ∧
        f = .expression .unmatchedClosing (some token.offset)) := by
  unfold step sendWhile at h
  cases hshape : token.shape with
  | closing =>
    rw [hshape] at h
    dsimp only at h
    cases hwait : stack.dropWhile fun top => !top.isOpening with
    | cons partner below => rw [hwait] at h; cases h
    | nil =>
      rw [hwait] at h
      cases h
      have hall := List.dropWhile_eq_nil_iff.1 hwait
      exact .inr ⟨rfl, by simpa using hall, rfl⟩
  | bare =>
    rw [hshape] at h
    cases h
    exact .inl ⟨rfl, rfl⟩
  | _ => rw [hshape] at h; cases h

lemma drain_of_fault (h : (drain stack).fault = none) :
    (drain stack).items = stack ∧ ∀ token ∈ stack, token.isOpening = false := by
  unfold drain sendWhile at h ⊢
  have hsplit := List.takeWhile_append_dropWhile (p := fun top : Token => !top.isOpening)
    (l := stack)
  cases hwait : stack.dropWhile (fun top => !top.isOpening) with
  | nil =>
    rw [hwait, List.append_nil] at hsplit
    refine ⟨hsplit, fun token htoken => ?_⟩
    simpa using List.takeWhile_eq_self_iff.1 hsplit token htoken
  | cons bracket rest => rw [hwait] at h; cases h

/-- A conversion that succeeds has fed everything and left operators only. -/
lemma feed_of_convert (h : convert none stack tokens = Run.ofList out) :
    ∃ sent after, feed stack tokens = (sent, .ok after) ∧ out = sent ++ after ∧
      ∀ token ∈ after, token.isOpening = false := by
  have hfeed := convert_append none stack tokens []
  rw [List.append_nil, h] at hfeed
  rcases hsent : feed stack tokens with ⟨sent, f | after⟩ <;> rw [hsent] at hfeed
  · cases congrArg Run.fault hfeed
  · obtain ⟨hitems, hopening⟩ := drain_of_fault (congrArg Run.fault hfeed).symm
    refine ⟨sent, after, rfl, ?_, hopening⟩
    rw [← hitems]
    exact congrArg Run.items hfeed

lemma mem_of_step (h : step stack token = (sent, .ok after)) {other : Token}
    (hother : other ∈ sent ++ after) : other ∈ stack ∨ other = token := by
  cases moves_of_step h with
  | operand shape => simpa [or_comm] using hother
  | opening shape => simpa [or_comm] using hother
  | operator shape sent waiting leave stay =>
    rw [List.mem_append, List.mem_cons] at hother
    rw [List.mem_append]
    tauto
  | closing shape sent partner after leave opened =>
    rw [List.mem_append] at hother
    rw [List.mem_append, List.mem_cons]
    tauto

lemma mem_of_feed (h : feed stack tokens = (sent, .ok after)) {other : Token}
    (hother : other ∈ sent ++ after) : other ∈ stack ∨ other ∈ tokens := by
  induction tokens generalizing stack sent with
  | nil => cases h; exact .inl hother
  | cons token tokens ih =>
    obtain ⟨first, next, later, hstep, hlater, rfl⟩ := feed_cons_eq_ok h
    have hfirst : ∀ t ∈ first ++ next, t ∈ stack ∨ t ∈ token :: tokens := by
      intro t ht
      rcases mem_of_step hstep ht with hstack | rfl
      · exact .inl hstack
      · exact .inr List.mem_cons_self
    rw [List.append_assoc] at hother
    rcases List.mem_append.1 hother with hsent | hrest
    · exact hfirst other (List.mem_append_left _ hsent)
    · rcases ih hlater hrest with hnext | htokens
      · exact hfirst other (List.mem_append_right _ hnext)
      · exact .inr (List.mem_cons_of_mem _ htokens)

theorem mem_of_convert (h : convert none [] tokens = Run.ofList out) {token : Token}
    (htoken : token ∈ out) : token ∈ tokens := by
  obtain ⟨sent, after, hfeed, rfl, -⟩ := feed_of_convert h
  exact (mem_of_feed hfeed htoken).resolve_left List.not_mem_nil

lemma shouldPop_opening (token : Token) (hbracket : bracket.shape = .opening) :
    shouldPop token bracket = false := by
  unfold shouldPop
  rw [hbracket]
  cases token.shape <;> rfl

lemma step_append_opening (hbracket : bracket.shape = .opening)
    (h : step stack token = (sent, .ok after)) (below : List Token) :
    step (stack ++ bracket :: below) token = (sent, .ok (after ++ bracket :: below)) := by
  rw [step_eq_ok_iff] at h ⊢
  cases h with
  | operand shape => exact .operand shape _
  | opening shape => exact .opening shape _
  | operator shape sent waiting leave stay =>
    rw [List.append_assoc]
    refine .operator shape sent (waiting ++ bracket :: below) leave ?_
    cases waiting with
    | nil => simpa using shouldPop_opening token hbracket
    | cons top waiting => simpa using stay
  | closing shape sent partner after leave opened =>
    rw [List.append_assoc]
    exact .closing shape sent partner (after ++ bracket :: below) leave opened

/-- What lies below an opening bracket has no influence. -/
theorem feed_append_opening (hbracket : bracket.shape = .opening)
    (h : feed stack tokens = (sent, .ok after)) (below : List Token) :
    feed (stack ++ bracket :: below) tokens = (sent, .ok (after ++ bracket :: below)) := by
  induction tokens generalizing stack sent with
  | nil => cases h; rfl
  | cons token tokens ih =>
    obtain ⟨first, next, later, hstep, hlater, rfl⟩ := feed_cons_eq_ok h
    rw [feed, step_append_opening hbracket hstep]
    simp only [ih hlater]

/-- Brackets around tokens that convert alone send on what these convert to, and leave the
stack as it was. -/
theorem feed_group (h : convert none [] tokens = Run.ofList out) (i j : ℤ) (stack : List Token) :
    feed stack (.opening i :: (tokens ++ [.closing j])) = (out, .ok stack) := by
  obtain ⟨sent, after, hfeed, rfl, hafter⟩ := feed_of_convert h
  have hopening : (Token.opening i).shape = .opening := rfl
  have hinside := feed_append (feed_append_opening hopening hfeed stack) [.closing j]
  have hleave : step (after ++ .opening i :: stack) (.closing j) = (after, .ok stack) :=
    step_eq_ok_iff.2 (.closing rfl after (.opening i) stack hafter rfl)
  rw [feed_singleton hleave] at hinside
  exact hinside

end Infix

end PostfixCalculator
