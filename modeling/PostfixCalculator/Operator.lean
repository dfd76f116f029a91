/-!
# Binary operators

Each operator has a symbol, a precedence and a function on doubles. All of them group to
the left: `2 ^ 3 ^ 2` is `(2 ^ 3) ^ 2`.
-/
namespace PostfixCalculator

/-- How operators of equal precedence group. -/
inductive Associativity where
  | left
  | right
  deriving DecidableEq, Repr, Hashable

inductive Operator where
  | addition
  | subtraction
  | multiplication
  | division
  | exponentiation
  deriving DecidableEq, Repr, Hashable

namespace Operator

def all : List Operator := [addition, subtraction, multiplication, division, exponentiation]

def symbol : Operator → Char
  | addition => '+'
  | subtraction => '-'
  | multiplication => '*'
  | division => '/'
  | exponentiation => '^'

def name : Operator → String
  | addition => "ADDITION"
  | subtraction => "SUBTRACTION"
  | multiplication => "MULTIPLICATION"
  | division => "DIVISION"
  | exponentiation => "EXPONENTIATION"

/-- An operator of higher precedence binds more tightly. -/
def precedence : Operator → Nat
  | addition | subtraction => 10
  | multiplication | division => 20
  | exponentiation => 30

def associativity (_ : Operator) : Associativity := .left

def ofSymbol? (text : List Char) : Option Operator := all.find? fun op => text == [op.symbol]

def ofName? (name : String) : Option Operator := all.find? fun op => op.name == name

/-- Arithmetic of doubles: it never fails, but has infinite results and results that are
not numbers. -/
def apply : Operator → Float → Float → Float
  | addition, a, b => a + b
  | subtraction, a, b => a - b
  | multiplication, a, b => a * b
  | division, a, b => a / b
  | exponentiation, a, b => a.pow b

theorem mem_all (op : Operator) : op ∈ all := by cases op <;> decide

theorem ofSymbol?_symbol (op : Operator) : ofSymbol? [op.symbol] = some op := by
  cases op <;> decide

theorem symbol_injective {a b : Operator} (h : a.symbol = b.symbol) : a = b := by
  cases a <;> cases b <;> simp_all [symbol]

end Operator

end PostfixCalculator
