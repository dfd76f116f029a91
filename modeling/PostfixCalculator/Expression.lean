import PostfixCalculator.Infix
import PostfixCalculator.Postfix
import PostfixCalculator.Reader

/-!
# Expressions

An expression is a sequence of tokens in postfix order. It can be read from infix and from
postfix text, written as postfix text, and evaluated.
-/
namespace PostfixCalculator

structure Expression where
  tokens : List Token

namespace Expression

instance : BEq Expression := ⟨fun a b => a.tokens == b.tokens⟩

instance : Hashable Expression := ⟨fun e => hash e.tokens⟩

/-- All tokens of a run that came to its natural end. -/
def ofRun (source : Run Token) : Except Fault Expression := source.toExcept.map (⟨·⟩)

def size (e : Expression) : Nat := e.tokens.length

def render (e : Expression) : List Char := renderTokens e.tokens

def text (e : Expression) : String := String.ofList e.render

/-- The form that shows the kind of every token. -/
def describe (e : Expression) : String :=
  let inner := match e.tokens with
    | [token] => token.describe ++ ","
    | tokens => ", ".intercalate (tokens.map Token.describe)
  "Expression(rpn=(" ++ inner ++ "))"

def evaluateWith (arithmetic : Postfix.Arithmetic) (e : Expression) : Except Fault Float :=
  Postfix.evaluateWith arithmetic (Run.ofList e.tokens)

def evaluate (e : Expression) : Except Fault Float := e.evaluateWith Operator.apply

/-- Reads postfix text. -/
def ofPostfix (text : List Char) : Except Fault Expression := ofRun (tokenize text)

end Expression

end PostfixCalculator
