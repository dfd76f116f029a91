import PostfixCalculator.Assembly
import PostfixCalculator.Proofs.Stopping

/-!
# Assemblies grow at the end

Whatever an assembly is asked to do, it keeps what it has and adds behind it the tokens that were
made before the first fault. So it does not matter by which methods tokens are added: the tokens of
a text that are added in order have the value of the text.
-/
namespace PostfixCalculator

variable {α : Type}

lemma Run.ofResults_stopped (items : List α) (fault : Fault) (rest : List (Except Fault α)) :
    ofResults (items.map .ok ++ .error fault :: rest) = ⟨items, some fault⟩ := by
  rw [ofResults_append, ofResults_map_ok]
  simp [andThen, ofList, prepend, ofResults, failed]

open Text

namespace Assembly

/-- What an assembly is asked to do. A value that is no token may be handed to it, and a source of
tokens delivers results until one of them is a fault. -/
inductive Action where
  | operand (value : Float) (offset : ℤ)
  | int (n : ℤ) (offset : ℤ)
  | numeral (text : List Char) (offset : ℤ)
  | symbol (text : List Char) (offset : ℤ)
  | operator (op : Operator) (offset : ℤ)
  | opening (offset : ℤ)
  | closing (offset : ℤ)
  | token (t : Token)
  | other (shown : String)
  | extend (source : List (Except Fault Token))
  | build

variable {a : Assembly} {action : Action} {actions steps : List Action} {fault : Fault}

def perform (a : Assembly) : Action → Assembly × Option Fault
  | .operand value offset => (a.addOperand value offset, none)
  | .int n offset => a.addInt n offset
  | .numeral text offset => a.addNumeral text offset
  | .symbol text offset => a.addSymbol text offset
  | .operator op offset => (a.addOperator op offset, none)
  | .opening offset => (a.addOpening offset, none)
  | .closing offset => (a.addClosing offset, none)
  | .token t => (a.add t, none)
  | .other shown => a.addResult (.error (.notToken shown))
  | .extend source => a.extend (Run.ofResults source)
  | .build => (a, none)

/-- Performs actions one after the other, whether or not they succeed. -/
def performAll (a : Assembly) (actions : List Action) : Assembly :=
  actions.foldl (fun a action => (a.perform action).1) a

/-- Adds results one after the other up to the first fault. -/
def addEach (a : Assembly) : List (Except Fault Token) → Assembly × Option Fault
  | [] => (a, none)
  | result :: rest =>
    match a.addResult result with
    | (next, none) => next.addEach rest
    | (stopped, some fault) => (stopped, some fault)

/-- The token sequences that are built on the way. -/
def builds (a : Assembly) : List Action → List (List Token)
  | [] => []
  | .build :: actions => a.build :: a.builds actions
  | action :: actions => (a.perform action).1.builds actions

namespace Action

/-- What an action tries to add. -/
def results : Action → List (Except Fault Token)
  | operand value offset => [.ok (.operand value offset)]
  | int n offset => [Token.ofInt n offset]
  | numeral text offset => [Token.ofNumeral text offset]
  | symbol text offset => [Token.ofSymbol text offset]
  | operator op offset => [.ok (.operator op offset)]
  | opening offset => [.ok (.opening offset)]
  | closing offset => [.ok (.closing offset)]
  | token t => [.ok t]
  | other shown => [.error (.notToken shown)]
  | extend source => source
  | build => []

/-- The tokens that an action adds. -/
def added (action : Action) : List Token := (Run.ofResults action.results).items

/-- The action adds no more than one token. -/
def IsSingle (action : Action) : Prop := ∀ source, action ≠ .extend source

end Action

/-- The action adds just these tokens, each by its value, its symbol and its offset or as it is. -/
inductive Replays : Action → List Token → Prop
  | operand (value : Float) (offset : ℤ) :
      Replays (.operand value offset) [.operand value offset]
  | symbol (op : Operator) (offset : ℤ) :
      Replays (.symbol [op.symbol] offset) [.operator op offset]
  | operator (op : Operator) (offset : ℤ) :
      Replays (.operator op offset) [.operator op offset]
  | opening (offset : ℤ) : Replays (.opening offset) [.opening offset]
  | closing (offset : ℤ) : Replays (.closing offset) [.closing offset]
  | token (t : Token) : Replays (.token t) [t]
  | extend (tokens : List Token) : Replays (.extend (tokens.map .ok)) tokens
  | build : Replays .build []

theorem extend_eq_addEach (a : Assembly) (source : List (Except Fault Token)) :
    a.extend (Run.ofResults source) = a.addEach source := by
  induction source generalizing a with
  | nil => simp [extend, addEach, Run.ofResults, Run.ofList]
  | cons result rest ih =>
    cases result with
    | error fault => simp [extend, addEach, addResult, Run.ofResults, Run.failed]
    | ok token =>
      rw [addEach, addResult]
      dsimp only
      rw [← ih (a.add token)]
      simp [extend, add, Run.ofResults, Run.prepend]

lemma addResult_eq_extend (a : Assembly) (result : Except Fault Token) :
    a.addResult result = a.extend (Run.ofResults [result]) := by
  cases result with
  | ok token => rfl
  | error fault => simp [addResult, extend, Run.ofResults, Run.failed]

/-- Every action comes to extending by a source, which may have one token or none. -/
theorem perform_eq (a : Assembly) (action : Action) :
    a.perform action = a.extend (Run.ofResults action.results) := by
  cases action with
  | int | numeral | symbol => exact a.addResult_eq_extend _
  | other shown => exact a.addResult_eq_extend (.error (.notToken shown))
  | build => simp [perform, extend, Action.results, Run.ofResults, Run.ofList]
  | _ => rfl

lemma tokens_perform (a : Assembly) (action : Action) :
    (a.perform action).1.tokens = a.tokens ++ action.added := by
  rw [perform_eq]
  rfl

theorem tokens_performAll (a : Assembly) (actions : List Action) :
    (a.performAll actions).tokens = a.tokens ++ actions.flatMap Action.added := by
  induction actions generalizing a with
  | nil => exact (List.append_nil _).symm
  | cons action actions ih =>
    show ((a.perform action).1.performAll actions).tokens = _
    rw [ih, tokens_perform, List.flatMap_cons, List.append_assoc]

lemma tokens_prefix_perform (a : Assembly) (action : Action) :
    a.tokens <+: (a.perform action).1.tokens := by
  rw [tokens_perform]
  exact List.prefix_append _ _

lemma Action.length_results (h : action.IsSingle) : action.results.length ≤ 1 := by
  cases action with
  | extend source => exact absurd rfl (h source)
  | build => exact Nat.zero_le 1
  | _ => exact le_rfl

lemma perform_of_isSingle (h : action.IsSingle) (hfault : (a.perform action).2 = some fault) :
    (a.perform action).1 = a := by
  have hlength := Action.length_results h
  rw [perform_eq] at hfault ⊢
  match hresults : action.results with
  | [] => simp [extend, Run.ofResults, Run.ofList]
  | [.error fault'] => simp [extend, Run.ofResults, Run.failed]
  | [.ok token] => rw [hresults] at hfault; cases hfault
  | first :: second :: rest => simp [hresults] at hlength

lemma perform_extend_stopped (a : Assembly) (before : List Token) (fault : Fault)
    (rest : List (Except Fault Token)) :
    a.perform (.extend (before.map .ok ++ .error fault :: rest)) =
      (⟨a.tokens ++ before⟩, some fault) := by
  rw [perform, Run.ofResults_stopped]
  rfl

lemma perform_extend_done (a : Assembly) (tokens : List Token) :
    a.perform (.extend (tokens.map .ok)) = (⟨a.tokens ++ tokens⟩, none) := by
  rw [perform, Run.ofResults_map_ok]
  rfl

lemma prefix_of_mem_builds {built : List Token} (h : built ∈ a.builds actions) :
    a.tokens <+: built := by
  fun_induction builds a actions with
  | case1 => cases h
  | case2 a actions ih =>
    rcases List.mem_cons.1 h with rfl | hrest
    · exact List.prefix_rfl
    · exact ih hrest
  | case3 a action actions hbuild ih => exact (a.tokens_prefix_perform action).trans (ih h)

theorem pairwise_builds (a : Assembly) (actions : List Action) :
    (a.builds actions).Pairwise (· <+: ·) := by
  fun_induction builds a actions with
  | case1 => exact .nil
  | case2 a actions ih => exact List.pairwise_cons.2 ⟨fun built => prefix_of_mem_builds, ih⟩
  | case3 a action actions hbuild ih => exact ih

lemma Replays.results {tokens : List Token} (h : Replays action tokens) :
    action.results = tokens.map .ok := by
  cases h with
  | symbol op offset => simp [Action.results, Token.ofSymbol, Operator.ofSymbol?_symbol]
  | _ => rfl

lemma Replays.perform {tokens : List Token} (h : Replays action tokens) (a : Assembly) :
    a.perform action = (⟨a.tokens ++ tokens⟩, none) := by
  rw [perform_eq, h.results, Run.ofResults_map_ok]
  rfl

lemma tokens_replayed {parts : List (List Token)} (h : List.Forall₂ Replays steps parts)
    (a : Assembly) : (a.performAll steps).tokens = a.tokens ++ parts.flatten := by
  induction h generalizing a with
  | nil => exact (List.append_nil _).symm
  | cons hstep _ ih =>
    show ((a.perform _).1.performAll _).tokens = _
    rw [ih, hstep.perform, List.flatten_cons, List.append_assoc]

lemma exists_replayed {parts : List (List Token)} {step : Action}
    (h : List.Forall₂ Replays steps parts) (hstep : step ∈ steps) :
    ∃ part, Replays step part := by
  induction h with
  | nil => cases hstep
  | cons hfirst _ ih =>
    rcases List.mem_cons.1 hstep with rfl | hrest
    · exact ⟨_, hfirst⟩
    · exact ih hrest

/-- The method that adds a token by what it is read from. -/
def replaying (token : Token) : Action :=
  match token.shape with
  | .operand value => .operand value token.offset
  | .operator op _ => .symbol [op.symbol] token.offset
  | .opening => .opening token.offset
  | .closing => .closing token.offset
  | .bare => .token token

/-- Every token of a text can be added by its own method. -/
lemma replays_replaying {text : List Char} {token : Token} (h : token ∈ (tokenize text).items) :
    Replays (replaying token) [token] := by
  obtain ⟨p, -, x, -, rfl⟩ := exists_lexeme_of_mem_tokenize h
  cases x with
  | number word value reads => exact .operand value p.start
  | operator op => exact .symbol op p.start
  | opening => exact .opening p.start
  | closing => exact .closing p.start

/-- Every action adds its tokens behind those that are there. A single action that fails changes
nothing. Extending adds the tokens of a source one after the other, so those before a fault stay.
An assembly holds what its actions added, in order, and what was built once starts all that is built
later. Any actions that replay the tokens of a text, cut into parts in any way, succeed, and what
they assemble has the value of the text or fails with the same fault. Each of these tokens can be
added by its own method. -/
theorem assembly_appends (actions : List Action) :
    (∀ (a : Assembly) (action : Action), (a.perform action).1.tokens = a.tokens ++ action.added) ∧
    (empty.performAll actions).build = actions.flatMap Action.added ∧
    (empty.builds actions).Pairwise (· <+: ·) ∧
    (∀ (a : Assembly) (action : Action) (fault : Fault), action.IsSingle →
      (a.perform action).2 = some fault → (a.perform action).1 = a) ∧
    (∀ (a : Assembly) (source : List (Except Fault Token)),
      a.perform (.extend source) = a.addEach source) ∧
    (∀ (a : Assembly) (before : List Token) (fault : Fault) (rest : List (Except Fault Token)),
      a.perform (.extend (before.map .ok ++ .error fault :: rest)) =
        (⟨a.tokens ++ before⟩, some fault)) ∧
    (∀ (a : Assembly) (tokens : List Token),
      a.perform (.extend (tokens.map .ok)) = (⟨a.tokens ++ tokens⟩, none)) ∧
    ∀ (text : List Char) (tokens : List Token), tokenize text = Run.ofList tokens →
      List.Forall₂ Replays (tokens.map replaying) (tokens.map ([·])) ∧
      ∀ (steps : List Action) (parts : List (List Token)), List.Forall₂ Replays steps parts →
        parts.flatten = tokens →
          (∀ (a : Assembly), ∀ step ∈ steps, (a.perform step).2 = none) ∧
          ∀ arithmetic, arrange (empty.performAll steps).build >>=
            Expression.evaluateWith arithmetic = evaluateTextWith arithmetic text := by
  refine ⟨tokens_perform, empty.tokens_performAll actions, empty.pairwise_builds actions,
    fun a action fault => perform_of_isSingle, extend_eq_addEach, perform_extend_stopped,
    perform_extend_done, fun text tokens htext => ⟨?_, fun steps parts hsteps hparts => ⟨fun a step hstep => ?_,
      fun arithmetic => ?_⟩⟩⟩
  · rw [List.forall₂_map_left_iff, List.forall₂_map_right_iff, List.forall₂_same]
    intro token htoken
    have hmem : token ∈ (tokenize text).items := htext ▸ htoken
    exact replays_replaying hmem
  · obtain ⟨part, hpart⟩ := exists_replayed hsteps hstep
    rw [hpart.perform]
  · have hbuild : (empty.performAll steps).build = tokens := hparts ▸ tokens_replayed hsteps empty
    rw [hbuild, evaluateTextWith_eq, htext]
    rfl

/-- A symbol of no operator adds nothing, and a source that stops leaves its first token. The tokens
of `( 1 +` are added by their own methods, as they are and from a source. -/
theorem assembly_appends_mixed :
    let a : Assembly := ⟨[.closing 9]⟩
    let text := "( 1 +".toList
    a.perform (.symbol ['?'] 3) = (a, some (Token.unknown ['?'] 3)) ∧
    a.perform (.extend [.ok (.opening 0), .error .numberTooLarge, .ok (.closing 1)]) =
      (⟨[.closing 9, .opening 0]⟩, some .numberTooLarge) ∧
    ∃ value, tokenize text = Run.ofList [.opening 0, .operand value 2, .operator .addition 4] ∧
      let steps : List Action := [.token (.opening 0), .build, .operand value 2,
        .extend [.ok (.operator .addition 4)], .build]
      empty.builds steps = [[.opening 0], [.opening 0, .operand value 2, .operator .addition 4]] ∧
      ∀ arithmetic, arrange (empty.performAll steps).build >>= Expression.evaluateWith arithmetic =
        evaluateTextWith arithmetic text := by
  intro a text
  obtain ⟨-, -, -, hsingle, -, hstopped, -, htext⟩ := assembly_appends []
  have hunknown : (a.perform (.symbol ['?'] 3)).2 = some (Token.unknown ['?'] 3) := rfl
  have hpieces : pieces text = [⟨['('], 0⟩, ⟨['1'], 2⟩, ⟨['+'], 4⟩] := by cbv
  have htokens : tokenize text = Run.ofList [.opening 0, .operand 1 2, .operator .addition 4] := by
    rw [tokenize_eq_ofResults, hpieces]
    rfl
  refine ⟨Prod.ext (hsingle _ _ _ (fun source => by simp) hunknown) hunknown,
    hstopped a [.opening 0] .numberTooLarge [.ok (.closing 1)], 1, htokens, rfl, ?_⟩
  have hsteps := (htext text _ htokens).2 _ [[.opening 0], [], [.operand 1 2],
    [.operator .addition 4], []] (.cons (.token _) (.cons .build (.cons (.operand 1 2)
      (.cons (.extend [_]) (.cons .build .nil))))) rfl
  exact hsteps.2

end Assembly

end PostfixCalculator
