import PostfixCalculator.Number.Rendering
import PostfixCalculator.Operator
import PostfixCalculator.Text.Quoted

/-!
# What can go wrong

A `Problem` is wrong with an expression and is reported with the place where it was
noticed. The other faults lie outside the expressions: a number that matches the pattern of
numbers and cannot be read, a number beyond all doubles, a token of no kind, and a value
that is no token.
-/
namespace PostfixCalculator

inductive Problem where
  | unknownToken (text : List Char)
  | unmatchedOpening
  | unmatchedClosing
  | bracketInPostfix (bracket : Char)
  | missingOperands (op : Operator) (available : Nat)
  | extraOperands (values : List Float)
  | empty

/-- Values between square brackets. -/
def listText (items : List String) : String := "[" ++ ", ".intercalate items ++ "]"

def Problem.message : Problem → String
  | unknownToken text => s!"Unknown token {String.ofList (Text.quoted text)}"
  | unmatchedOpening => "Mismatched opening bracket"
  | unmatchedClosing => "Mismatched closing bracket"
  | bracketInPostfix bracket => s!"Unexpected bracket {bracket} in reverse Polish notation"
  | missingOperands op available =>
    s!"Operator {op.symbol} requires two operands but only {available} available"
  | extraOperands values => s!"Unexpected extra operands: {listText (values.map Number.text)}"
  | empty => "Empty expression"

inductive Fault where
  | expression (problem : Problem) (offset : Option Int)
  | unreadableNumber (text : List Char)
  | numberTooLarge
  | shapelessToken
  | notToken (shown : String)

/-- A message followed by the place it speaks of, if that is known. -/
def located (message : String) : Option Int → String
  | none => message
  | some offset => s!"{message} at offset {offset}"

def Fault.message : Fault → String
  | expression problem offset => located problem.message offset
  | unreadableNumber text =>
    s!"could not convert string to float: {String.ofList (Text.quoted text)}"
  | numberTooLarge => "int too large to convert to float"
  | shapelessToken => "Unexpected token Token()"
  | notToken shown => s!"Expected a Token, instead found {shown}"

/-- Whether a fault is a problem of the expression, which a batch survives. -/
def Fault.isProblem : Fault → Bool
  | expression .. => true
  | _ => false

end PostfixCalculator
