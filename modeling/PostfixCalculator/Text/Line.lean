import PostfixCalculator.Text.Blank

/-!
# Lines

A line ends with a line feed, a carriage return, or both in this order; where only line feeds
count, a carriage return is a character like any other. What follows the last end is a line only
if it is not empty.
-/
namespace PostfixCalculator.Text

/-- Which line ends count: all of them, or line feeds only. -/
inductive LineMode where
  | universal
  | lineFeed
  deriving DecidableEq, Repr

/-- Writes every line end as one line feed. -/
def unifyLineEnds : List Char → List Char
  | [] => []
  | '\r' :: '\n' :: rest => '\n' :: unifyLineEnds rest
  | '\r' :: rest => '\n' :: unifyLineEnds rest
  | c :: rest => c :: unifyLineEnds rest

/-- Cuts at every line feed; a text with `n` of them has `n + 1` parts. -/
def splitLines : List Char → List (List Char)
  | [] => [[]]
  | '\n' :: rest => [] :: splitLines rest
  | c :: rest =>
    match splitLines rest with
    | [] => [[c]]
    | line :: lines => (c :: line) :: lines

theorem splitLines_ne_nil (text : List Char) : splitLines text ≠ [] := by
  fun_induction splitLines text <;> simp

/-- Writes every line end that counts as one line feed. -/
def LineMode.unify : LineMode → List Char → List Char
  | universal, text => unifyLineEnds text
  | lineFeed, text => text

/-- The lines of a text, without the ends that count. -/
def LineMode.lines (mode : LineMode) (text : List Char) : List (List Char) :=
  let parts := splitLines (mode.unify text)
  if parts.getLast? == some [] then parts.dropLast else parts

/-- The lines of a text with line ends of all kinds. -/
def lines (text : List Char) : List (List Char) := LineMode.universal.lines text

end PostfixCalculator.Text
