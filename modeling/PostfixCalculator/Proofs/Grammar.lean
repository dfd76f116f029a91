import PostfixCalculator.Postfix
import PostfixCalculator.Proofs.Lexeme

/-!
# The grammar of infix expressions

An expression joins terms by `+` and `-`, a term joins powers by `*` and `/`, a power joins
atoms by `^`, and an atom is a number or a bracketed expression. In a layout any number of
atoms stand side by side where the grammar wants one of them.
-/
namespace PostfixCalculator

inductive Category where
  | expression
  | term
  | power
  | atom
  deriving DecidableEq, Repr

namespace Category

/-- What the phrases of a category consist of when they are split at its operators. -/
def operand : Category → Category
  | expression => term
  | term => power
  | power | atom => atom

/-- The precedence of the operators of a category. Atoms bind more tightly than all of them. -/
def precedence : Category → ℕ
  | expression => 10
  | term => 20
  | power => 30
  | atom => 40

lemma precedence_lt_operand {c : Category} (h : c ≠ atom) :
    c.precedence < c.operand.precedence := by
  cases c <;> simp_all [operand, precedence]

lemma precedence_le_operand (c : Category) : c.precedence ≤ c.operand.precedence := by
  cases c <;> simp [operand, precedence]

end Category

namespace Operator

def category : Operator → Category
  | addition | subtraction => .expression
  | multiplication | division => .term
  | exponentiation => .power

lemma precedence_category (op : Operator) : op.category.precedence = op.precedence := by
  cases op <;> rfl

lemma category_ne_atom (op : Operator) : op.category ≠ .atom := by cases op <;> decide

lemma precedence_operand_le {op : Operator} {c : Category} (hle : c.precedence ≤ op.precedence)
    (hne : op.category ≠ c) : c.operand.precedence ≤ op.precedence := by
  cases op <;> cases c <;> simp_all [category, Category.operand, Category.precedence, precedence]

end Operator

/-- How a phrase is derived by the grammar: a category is a chain of operands joined by its
operators, grouped to the left. -/
inductive Derivation : Category → Type
  | number (word : List Char) (value : Float) (reads : IsNumber word value) : Derivation .atom
  | bracketed (inner : Derivation .expression) : Derivation .atom
  | single {c : Category} (h : c ≠ .atom) (inner : Derivation c.operand) : Derivation c
  | joined {c : Category} (op : Operator) (h : op.category = c) (left : Derivation c)
      (right : Derivation c.operand) : Derivation c

namespace Derivation

def ofAtom (atom : Derivation .atom) : (c : Category) → Derivation c
  | .atom => atom
  | .power => .single (by decide) atom
  | .term => .single (by decide) (.single (by decide) atom)
  | .expression => .single (by decide) (.single (by decide) (.single (by decide) atom))

def lexemes {c : Category} : Derivation c → List Lexeme
  | number word value reads => [.number word value reads]
  | bracketed inner => .opening :: (inner.lexemes ++ [.closing])
  | single _ inner => inner.lexemes
  | joined op _ left right => left.lexemes ++ .operator op :: right.lexemes

def value {c : Category} (arithmetic : Postfix.Arithmetic) : Derivation c → Float
  | number _ value _ => value
  | bracketed inner => inner.value arithmetic
  | single _ inner => inner.value arithmetic
  | joined op _ left right => arithmetic op (left.value arithmetic) (right.value arithmetic)

end Derivation

/-- A phrase whose operators are in their places, but where an atom may be missing or be
followed by others. -/
inductive Layout : Category → Type
  | nothing : Layout .atom
  | number (before : Layout .atom) (word : List Char) (value : Float)
      (reads : IsNumber word value) : Layout .atom
  | bracketed (before : Layout .atom) (inner : Layout .expression) : Layout .atom
  | single {c : Category} (h : c ≠ .atom) (inner : Layout c.operand) : Layout c
  | joined {c : Category} (op : Operator) (h : op.category = c) (left : Layout c)
      (right : Layout c.operand) : Layout c

namespace Layout

def ofAtom (atoms : Layout .atom) : (c : Category) → Layout c
  | .atom => atoms
  | .power => .single (by decide) atoms
  | .term => .single (by decide) (.single (by decide) atoms)
  | .expression => .single (by decide) (.single (by decide) (.single (by decide) atoms))

def lexemes {c : Category} : Layout c → List Lexeme
  | nothing => []
  | number before word value reads => before.lexemes ++ [.number word value reads]
  | bracketed before inner => before.lexemes ++ .opening :: (inner.lexemes ++ [.closing])
  | single _ inner => inner.lexemes
  | joined op _ left right => left.lexemes ++ .operator op :: right.lexemes

def postOrder {c : Category} : Layout c → List Token
  | nothing => []
  | number before _ value _ => before.postOrder ++ [.operand value 0]
  | bracketed before inner => before.postOrder ++ inner.postOrder
  | single _ inner => inner.postOrder
  | joined op _ left right => left.postOrder ++ (right.postOrder ++ [.operator op 0])

/-- How many values lie on the stack when `n` were there before: an operator takes two
values, which must be there, and leaves one. -/
def height {c : Category} : Layout c → ℕ → Option ℕ
  | nothing, n => some n
  | number before _ _ _, n => before.height n >>= fun n => some (n + 1)
  | bracketed before inner, n => before.height n >>= inner.height
  | single _ inner, n => inner.height n
  | joined _ _ left right, n =>
    left.height n >>= fun n => right.height n >>= fun n => if 2 ≤ n then some (n - 1) else none

end Layout

end PostfixCalculator
