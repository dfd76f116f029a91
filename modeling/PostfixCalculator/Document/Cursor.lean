/-!
# Positions in a text

A cursor is the rest of a text and the number of characters before it.
-/
namespace PostfixCalculator.Document

structure Cursor where
  rest : List Char
  position : Nat

namespace Cursor

def ofText (text : List Char) : Cursor := ⟨text, 0⟩

def advance (c : Cursor) (count : Nat) : Cursor := ⟨c.rest.drop count, c.position + count⟩

/-- The characters at the front that satisfy a predicate. -/
def span (c : Cursor) (p : Char → Bool) : List Char := c.rest.takeWhile p

def skip (c : Cursor) (p : Char → Bool) : Cursor := c.advance (c.span p).length

end Cursor

/-- The number of the line that holds a position, and the position's column in it; both
count from one. -/
def lineAndColumn (text : List Char) (position : Nat) : Nat × Nat :=
  let before := text.take position
  let column := (before.reverse.takeWhile (· != '\n')).length + 1
  (before.count '\n' + 1, column)

end PostfixCalculator.Document
