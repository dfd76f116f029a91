import PostfixCalculator.Text.Blank

/-!
# Pieces of a text

A piece is a maximal run of characters that are not blank, with the number of
characters before it.
-/
namespace PostfixCalculator.Text

structure Piece where
  text : List Char
  start : Nat
  deriving DecidableEq, Repr

/-- The run of characters up to the first blank. -/
def firstRun (text : List Char) : List Char := text.takeWhile fun c => !isBlank c

def afterRun (text : List Char) : List Char := text.dropWhile fun c => !isBlank c

theorem firstRun_append_afterRun (text : List Char) : firstRun text ++ afterRun text = text :=
  List.takeWhile_append_dropWhile

theorem length_afterRun_le (text : List Char) : (afterRun text).length ≤ text.length := by
  have h := congrArg List.length (firstRun_append_afterRun text)
  simp only [List.length_append] at h
  omega

/-- The pieces of a text that starts after `start` characters. -/
def piecesFrom (start : Nat) : List Char → List Piece
  | [] => []
  | c :: rest =>
    if isBlank c then piecesFrom (start + 1) rest
    else ⟨c :: firstRun rest, start⟩ ::
      piecesFrom (start + 1 + (firstRun rest).length) (afterRun rest)
termination_by text => text.length
decreasing_by
  · simp
  · have := length_afterRun_le rest
    simp only [List.length_cons]
    omega

def pieces (text : List Char) : List Piece := piecesFrom 0 text

end PostfixCalculator.Text
