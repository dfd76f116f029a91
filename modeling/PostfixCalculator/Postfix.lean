import PostfixCalculator.Run
import PostfixCalculator.Token

/-!
# Evaluating postfix order

A stack machine: operands are pushed, and an operator replaces the two topmost values by
its result. One value must be left. The functions of the operators are a parameter.
-/
namespace PostfixCalculator.Postfix

/-- The functions that operators stand for. -/
abbrev Arithmetic := Operator → Float → Float → Float

/-- The stack after one token; the topmost value comes first. -/
def step (arithmetic : Arithmetic) (values : List Float) (token : Token) :
    Except Fault (List Float) :=
  match token.shape with
  | .operand value => .ok (value :: values)
  | .operator op _ =>
    match values with
    | rhs :: lhs :: below => .ok (arithmetic op lhs rhs :: below)
    | _ => .error (.expression (.missingOperands op values.length) (some token.offset))
  | .opening => .error (.expression (.bracketInPostfix '(') (some token.offset))
  | .closing => .error (.expression (.bracketInPostfix ')') (some token.offset))
  | .bare => .error .shapelessToken

/-- The value of a finished run, whose last token was read at `last`. -/
def result (last : Int) : List Float → Except Fault Float
  | [] => .error (.expression .empty none)
  | [value] => .ok value
  | _ :: below => .error (.expression (.extraOperands below.reverse) (some last))

/-- Goes through tokens that end in a fault or not. -/
def run (arithmetic : Arithmetic) (fault : Option Fault) (last : Int) (values : List Float) :
    List Token → Except Fault Float
  | [] =>
    match fault with
    | some f => .error f
    | none => result last values
  | token :: rest =>
    match step arithmetic values token with
    | .ok values => run arithmetic fault token.offset values rest
    | .error f => .error f

def evaluateWith (arithmetic : Arithmetic) (source : Run Token) : Except Fault Float :=
  run arithmetic source.fault 0 [] source.items

/-- The value of tokens in postfix order. -/
def evaluate (source : Run Token) : Except Fault Float := evaluateWith Operator.apply source

end PostfixCalculator.Postfix
