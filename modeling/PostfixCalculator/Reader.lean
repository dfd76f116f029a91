import PostfixCalculator.Run
import PostfixCalculator.Text.Piece
import PostfixCalculator.Token

/-!
# Reading tokens from a text

A reader goes through a text character by character and can look one token ahead. A piece
that is no token is passed over when it is reported.
-/
namespace PostfixCalculator

open Text

/-- The text not yet read, the number of characters read, and a token looked at but not
yet taken. -/
structure Reader where
  rest : List Char
  offset : Nat
  held : Option Token

namespace Reader

def ofText (text : List Char) : Reader := ⟨text, 0, none⟩

/-- Moves to the next piece. -/
def skipBlank (r : Reader) : Reader :=
  { r with
    rest := dropBlank r.rest
    offset := r.offset + (r.rest.takeWhile isBlank).length }

/-- Reads the piece in front; there is none at the end of the text. -/
def readPiece (r : Reader) : Except Fault (Option Token) × Reader :=
  let piece := firstRun r.rest
  let after : Reader := ⟨afterRun r.rest, r.offset + piece.length, none⟩
  if piece.isEmpty then (.ok none, after)
  else
    match Token.ofPiece piece r.offset with
    | .ok token => (.ok (some token), { after with held := some token })
    | .error fault => (.error fault, after)

/-- The next token, which stays in front. -/
def peek (r : Reader) : Except Fault (Option Token) × Reader :=
  if r.held.isSome then (.ok r.held, r) else r.skipBlank.readPiece

def hasNext (r : Reader) : Except Fault Bool × Reader :=
  let (answer, after) := r.peek
  (answer.map Option.isSome, after)

/-- Takes the next token. -/
def next (r : Reader) : Except Fault (Option Token) × Reader :=
  let (answer, after) := r.peek
  (answer, { after with held := none })

/-- Decreases whenever a token is taken. -/
def size (r : Reader) : Nat := 2 * r.rest.length + r.held.toList.length

theorem length_dropWhile_le {α : Type} (p : α → Bool) (l : List α) :
    (l.dropWhile p).length ≤ l.length := by
  have h := congrArg List.length (List.takeWhile_append_dropWhile (p := p) (l := l))
  simp only [List.length_append] at h
  omega

theorem size_readPiece {r : Reader} {token : Token}
    (h : r.readPiece.1 = .ok (some token)) :
    r.readPiece.2.rest.length < r.rest.length := by
  have hsplit := congrArg List.length (firstRun_append_afterRun r.rest)
  simp only [List.length_append] at hsplit
  have hpos : (firstRun r.rest).length ≠ 0 := by
    intro h0
    have hnil := List.eq_nil_of_length_eq_zero h0
    simp [readPiece, hnil] at h
  have hrest : r.readPiece.2.rest = afterRun r.rest := by
    unfold readPiece
    dsimp only
    split
    · rfl
    · split <;> rfl
  rw [hrest]
  omega

theorem size_next_lt {r : Reader} {token : Token} (h : r.next.1 = .ok (some token)) :
    r.next.2.size < r.size := by
  unfold next peek at h ⊢
  by_cases hheld : r.held.isSome
  · obtain ⟨t, ht⟩ := Option.isSome_iff_exists.1 hheld
    simp [size, ht]
  · simp only [hheld, Bool.false_eq_true, if_false] at h ⊢
    have hlt := size_readPiece h
    have hle := length_dropWhile_le isBlank r.rest
    simp only [skipBlank, dropBlank] at hlt ⊢
    simp only [size, Option.toList_none, List.length_nil]
    omega

/-- Takes tokens until there are no more or one cannot be read. -/
def readAll (r : Reader) : Run Token × Reader :=
  match _h : r.next.1 with
  | .ok (some token) =>
    let (run, after) := r.next.2.readAll
    (run.prepend [token], after)
  | .ok none => (Run.ofList [], r.next.2)
  | .error fault => (Run.failed fault, r.next.2)
termination_by r.size
decreasing_by exact size_next_lt (by assumption)

end Reader

/-- The tokens of a text, up to the first piece that is none. -/
def tokenize (text : List Char) : Run Token := (Reader.ofText text).readAll.1

end PostfixCalculator
