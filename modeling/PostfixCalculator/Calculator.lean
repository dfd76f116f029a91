import PostfixCalculator.Assembly
import PostfixCalculator.Expression

/-!
# Infix expressions from text to value

All tokens of a text are read before the first of them is moved into postfix order, and
all are in postfix order before the first is evaluated.
-/
namespace PostfixCalculator

/-- Brings infix tokens into postfix order. -/
def arrange (tokens : List Token) : Except Fault Expression :=
  Expression.ofRun (Infix.toPostfix (Run.ofList tokens))

/-- Reads an infix expression, which must have a token. -/
def parse (text : List Char) : Except Fault Expression :=
  match Assembly.empty.extend (tokenize text) with
  | (_, some fault) => .error fault
  | (assembly, none) =>
    if assembly.size == 0 then .error (.expression .empty none) else arrange assembly.build

def evaluateTextWith (arithmetic : Postfix.Arithmetic) (text : List Char) :
    Except Fault Float :=
  parse text >>= Expression.evaluateWith arithmetic

/-- The value of an infix expression. -/
def evaluateText (text : List Char) : Except Fault Float := evaluateTextWith Operator.apply text

end PostfixCalculator
