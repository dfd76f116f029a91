import PostfixCalculator.Reader
import PostfixCalculator.Proofs.Lexeme

/-!
# Tokens of a text

A reader that goes through a text character by character delivers the tokens of its pieces,
in order, up to the first piece that is none.
-/
namespace PostfixCalculator

open Text

def Text.Piece.token (p : Piece) : Except Fault Token := Token.ofPiece p.text p.start

namespace Reader

def pending (r : Reader) : List Piece := piecesFrom r.offset r.rest

lemma piecesFrom_dropBlank (start : ℕ) (text : List Char) :
    piecesFrom (start + (text.takeWhile isBlank).length) (dropBlank text) =
      piecesFrom start text := by
  induction text generalizing start with
  | nil => rfl
  | cons c text ih =>
    unfold dropBlank at *
    cases hc : isBlank c
    · simp [hc]
    · rw [piecesFrom_blank hc, ← ih (start + 1), List.takeWhile_cons_of_pos hc,
        List.dropWhile_cons_of_pos hc, List.length_cons, add_assoc, add_comm 1]

lemma isBlank_of_dropBlank {text rest : List Char} {c : Char} (h : dropBlank text = c :: rest) :
    isBlank c = false := by
  have hhead := List.head?_dropWhile_not isBlank text
  unfold dropBlank at h
  rw [h] at hhead
  simpa using hhead

lemma pending_skipBlank (r : Reader) : r.skipBlank.pending = r.pending :=
  piecesFrom_dropBlank r.offset r.rest

lemma rest_skipBlank {r : Reader} (h : r.pending = []) : r.skipBlank.rest = [] := by
  rw [← pending_skipBlank] at h
  cases hr : r.skipBlank.rest with
  | nil => rfl
  | cons c rest => rw [pending, hr, piecesFrom_solid (isBlank_of_dropBlank hr)] at h; cases h

/-- At the end of the text nothing is held and nothing is left. -/
lemma peek_end {r : Reader} (hheld : r.held = none) (h : r.pending = []) :
    r.peek.1 = .ok none ∧ r.peek.2.held = none ∧ r.peek.2.pending = [] := by
  simp [peek, hheld, readPiece, rest_skipBlank h, firstRun, afterRun, pending, piecesFrom_nil]

lemma next_end {r : Reader} (hheld : r.held = none) (h : r.pending = []) :
    r.next.1 = .ok none := (peek_end hheld h).1

/-- The next token is that of the next piece, which is passed over. -/
lemma next_piece {r : Reader} {p : Piece} {ps : List Piece} (hheld : r.held = none)
    (h : r.pending = p :: ps) :
    r.next.1 = p.token.map some ∧ r.next.2.held = none ∧ r.next.2.pending = ps := by
  rw [← pending_skipBlank] at h
  cases hr : r.skipBlank.rest with
  | nil => rw [pending, hr, piecesFrom_nil] at h; cases h
  | cons c rest =>
    have hc := isBlank_of_dropBlank hr
    rw [pending, hr, piecesFrom_solid hc] at h
    obtain ⟨rfl, rfl⟩ := List.cons.inj h
    have hfirst : firstRun (c :: rest) = c :: firstRun rest := by simp [firstRun, hc]
    have hafter : afterRun (c :: rest) = afterRun rest := by simp [afterRun, hc]
    have hpeek : r.peek = r.skipBlank.readPiece := by simp [peek, hheld]
    rw [next, hpeek]
    unfold readPiece pending Piece.token
    rw [hr, hfirst, hafter]
    dsimp only
    cases Token.ofPiece (c :: firstRun rest) r.skipBlank.offset with
    | error fault => exact ⟨rfl, rfl, by simp [add_assoc, add_comm 1]⟩
    | ok token => exact ⟨rfl, rfl, by simp [add_assoc, add_comm 1]⟩

/-- Reading on delivers the tokens of all pieces up to the first that is none. -/
theorem readAll_eq_ofResults {r : Reader} (hheld : r.held = none) :
    r.readAll.1 = Run.ofResults (r.pending.map Piece.token) := by
  fun_induction readAll r with
  | case1 r token hnext run after hrun ih =>
    cases hp : r.pending with
    | nil => rw [next_end hheld hp] at hnext; cases hnext
    | cons p ps =>
      obtain ⟨htoken, hafter, hpending⟩ := next_piece hheld hp
      rw [htoken] at hnext
      cases ht : p.token with
      | error fault => rw [ht] at hnext; cases hnext
      | ok t =>
        rw [ht] at hnext
        cases hnext
        have hrest := ih hafter
        rw [hrun, hpending] at hrest
        rw [List.map_cons, ht, Run.ofResults, ← hrest]
  | case2 r hnext =>
    cases hp : r.pending with
    | nil => rfl
    | cons p ps =>
      rw [(next_piece hheld hp).1] at hnext
      cases ht : p.token <;> rw [ht] at hnext <;> cases hnext
  | case3 r fault hnext =>
    cases hp : r.pending with
    | nil => rw [next_end hheld hp] at hnext; cases hnext
    | cons p ps =>
      rw [(next_piece hheld hp).1] at hnext
      cases ht : p.token <;> rw [ht] at hnext <;> cases hnext
      rw [List.map_cons, ht, Run.ofResults]

end Reader

/-- The tokens of a text are those of its pieces. -/
theorem tokenize_eq_ofResults (text : List Char) :
    tokenize text = Run.ofResults ((pieces text).map Piece.token) :=
  Reader.readAll_eq_ofResults (r := Reader.ofText text) rfl

end PostfixCalculator
