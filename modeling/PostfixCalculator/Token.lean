import PostfixCalculator.Fault
import PostfixCalculator.Number.Reading

/-!
# Tokens

A token has a shape and the offset at which it was read. Two tokens are equal if their
shapes have the same key: the offset does not matter, all operands that are not numbers
are one, and zero has no sign.
-/
namespace PostfixCalculator

/-- An operator token may override how its operator groups. A bare token has none of the
four shapes of an expression, and nothing accepts it. -/
inductive Shape where
  | operand (value : Float)
  | operator (op : Operator) (grouping : Associativity)
  | opening
  | closing
  | bare

structure Token where
  shape : Shape
  offset : Int := 0

/-- What distinguishes shapes. -/
inductive Key where
  | number (bits : Nat)
  | operator (op : Operator) (grouping : Associativity)
  | opening
  | closing
  | bare
  deriving DecidableEq, Repr, Hashable

def Shape.key : Shape → Key
  | operand value => .number (Number.canonicalBits value)
  | operator op grouping => .operator op grouping
  | opening => .opening
  | closing => .closing
  | bare => .bare

namespace Token

instance : BEq Token := ⟨fun a b => a.shape.key == b.shape.key⟩

instance : Hashable Token := ⟨fun t => hash t.shape.key⟩

def operand (value : Float) (offset : Int) : Token := ⟨.operand value, offset⟩

/-- An operator that groups as all tokens of its operator do. -/
def operator (op : Operator) (offset : Int) : Token := ⟨.operator op op.associativity, offset⟩

/-- An operator that groups to the right. -/
def rightOperator (op : Operator) (offset : Int) : Token := ⟨.operator op .right, offset⟩

def opening (offset : Int) : Token := ⟨.opening, offset⟩

def closing (offset : Int) : Token := ⟨.closing, offset⟩

def bare (offset : Int) : Token := ⟨.bare, offset⟩

def isOperand (t : Token) : Bool := t.shape matches .operand _

def isOperator (t : Token) : Bool := t.shape matches .operator ..

def isOpening (t : Token) : Bool := t.shape matches .opening

def isClosing (t : Token) : Bool := t.shape matches .closing

/-- The form in which a token is written in an expression. -/
def render (t : Token) : List Char :=
  match t.shape with
  | .operand value => Number.render value
  | .operator op _ => [op.symbol]
  | .opening => ['(']
  | .closing => [')']
  | .bare => "Token()".toList

def text (t : Token) : String := String.ofList t.render

/-- The form that tells all tokens apart but for their offsets. -/
def describe (t : Token) : String :=
  match t.shape with
  | .operand value => s!"Operand(value={Number.text value})"
  | .operator op .left => s!"OperatorToken(op={op.name})"
  | .operator op .right => s!"RightToken(op={op.name})"
  | .opening => "OpenBracket()"
  | .closing => "CloseBracket()"
  | .bare => "Token()"

def unknown (text : List Char) (offset : Int) : Fault :=
  .expression (.unknownToken text) (some offset)

def ofSymbol (text : List Char) (offset : Int) : Except Fault Token :=
  match Operator.ofSymbol? text with
  | some op => .ok (operator op offset)
  | none => .error (unknown text offset)

/-- Reads one piece of text: a number literal, a bracket or an operator symbol. A misspelt
word for a number passes for a number and cannot be read as one. -/
def ofPiece (text : List Char) (offset : Int) : Except Fault Token :=
  match Number.Literal.read? text with
  | some literal => .ok (operand literal.value offset)
  | none =>
    if Number.isMisspelt text then .error (.unreadableNumber text)
    else if text == ['('] then .ok (opening offset)
    else if text == [')'] then .ok (closing offset)
    else ofSymbol text offset

/-- An operand of a whole number, which must not be beyond all doubles. -/
def ofInt (n : Int) (offset : Int) : Except Fault Token :=
  match Number.ofInt? n with
  | some value => .ok (operand value offset)
  | none => .error .numberTooLarge

/-- An operand of a number as people write them. -/
def ofNumeral (text : List Char) (offset : Int) : Except Fault Token :=
  match Number.readFloat? text with
  | some value => .ok (operand value offset)
  | none => .error (.unreadableNumber text)

theorem beq_iff {a b : Token} : (a == b) = true ↔ a.shape.key = b.shape.key := by
  show (a.shape.key == b.shape.key) = true ↔ _
  exact beq_iff_eq

end Token

/-- Tokens separated by single spaces. -/
def renderTokens (tokens : List Token) : List Char :=
  List.intercalate [' '] (tokens.map Token.render)

end PostfixCalculator
