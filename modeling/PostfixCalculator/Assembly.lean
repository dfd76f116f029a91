import PostfixCalculator.Reader

/-!
# Assembling token sequences

Tokens are added one at a time or from a run. What was added before a fault stays.
-/
namespace PostfixCalculator

/-- The tokens added so far, in order. -/
structure Assembly where
  tokens : List Token

namespace Assembly

def empty : Assembly := ⟨[]⟩

def size (a : Assembly) : Nat := a.tokens.length

def add (a : Assembly) (token : Token) : Assembly := ⟨a.tokens ++ [token]⟩

/-- Adds a token that may have failed to be made. -/
def addResult (a : Assembly) : Except Fault Token → Assembly × Option Fault
  | .ok token => (a.add token, none)
  | .error fault => (a, some fault)

/-- Adds the tokens of a run. -/
def extend (a : Assembly) (run : Run Token) : Assembly × Option Fault :=
  (⟨a.tokens ++ run.items⟩, run.fault)

def addOperand (a : Assembly) (value : Float) (offset : Int) : Assembly :=
  a.add (.operand value offset)

def addInt (a : Assembly) (n : Int) (offset : Int) : Assembly × Option Fault :=
  a.addResult (Token.ofInt n offset)

def addNumeral (a : Assembly) (text : List Char) (offset : Int) : Assembly × Option Fault :=
  a.addResult (Token.ofNumeral text offset)

def addSymbol (a : Assembly) (text : List Char) (offset : Int) : Assembly × Option Fault :=
  a.addResult (Token.ofSymbol text offset)

def addOperator (a : Assembly) (op : Operator) (offset : Int) : Assembly :=
  a.add (.operator op offset)

def addOpening (a : Assembly) (offset : Int) : Assembly := a.add (.opening offset)

def addClosing (a : Assembly) (offset : Int) : Assembly := a.add (.closing offset)

/-- The tokens added so far. -/
def build (a : Assembly) : List Token := a.tokens

end Assembly

end PostfixCalculator
