import PostfixCalculator.Run
import PostfixCalculator.Token

/-!
# From infix to postfix order

Operands pass at once. Operators and opening brackets wait on a stack, the latest on top,
until an operator that binds less tightly, a closing bracket or the end of the input sends
them on.
-/
namespace PostfixCalculator.Infix

/-- Whether a waiting operator is sent on before another one joins it: on equal precedence
the grouping of the newcomer decides. -/
def yields (newcomer : Operator) (grouping : Associativity) (waiting : Operator) : Bool :=
  match grouping with
  | .left => newcomer.precedence ≤ waiting.precedence
  | .right => newcomer.precedence < waiting.precedence

/-- Whether `top` is an operator that is sent on before the operator `token` joins. -/
def shouldPop (token top : Token) : Bool :=
  match token.shape, top.shape with
  | .operator newcomer grouping, .operator waiting _ => yields newcomer grouping waiting
  | _, _ => false

/-- Moves waiting operators to the output while `leaves` holds of the topmost token. -/
def sendWhile (leaves : Token → Bool) (stack : List Token) : List Token × List Token :=
  (stack.takeWhile leaves, stack.dropWhile leaves)

/-- What one token sends on, and the stack after it. -/
def step (stack : List Token) (token : Token) : List Token × Except Fault (List Token) :=
  match token.shape with
  | .operand _ => ([token], .ok stack)
  | .opening => ([], .ok (token :: stack))
  | .operator .. =>
    let (sent, waiting) := sendWhile (shouldPop token) stack
    (sent, .ok (token :: waiting))
  | .closing =>
    let (sent, waiting) := sendWhile (fun top => !top.isOpening) stack
    match waiting with
    | [] => (sent, .error (.expression .unmatchedClosing (some token.offset)))
    | _ :: below => (sent, .ok below)
  | .bare => ([], .error .shapelessToken)

/-- Sends on what waits at the end of the input; an opening bracket is left over. -/
def drain (stack : List Token) : Run Token :=
  let (sent, waiting) := sendWhile (fun top => !top.isOpening) stack
  match waiting with
  | [] => Run.ofList sent
  | bracket :: _ =>
    ⟨sent, some (.expression .unmatchedOpening (some bracket.offset))⟩

/-- Goes through tokens that end in a fault or not. -/
def convert (fault : Option Fault) (stack : List Token) : List Token → Run Token
  | [] =>
    match fault with
    | some f => Run.failed f
    | none => drain stack
  | token :: rest =>
    match step stack token with
    | (sent, .ok stack) => (convert fault stack rest).prepend sent
    | (sent, .error f) => ⟨sent, some f⟩

/-- The tokens of an infix expression in postfix order. -/
def toPostfix (source : Run Token) : Run Token := convert source.fault [] source.items

end PostfixCalculator.Infix
