import PostfixCalculator.Proofs.Tokenizing

/-!
# A cursor over pieces

To whoever asks, a reader is a cursor over the pieces of its text. Looking leaves the cursor
before a piece that is a token. A piece that is none is reported by the call that meets it, and
the cursor moves past it.
-/
namespace PostfixCalculator

open Text

namespace Reader

inductive Call where
  | peek
  | hasNext
  | next
  | readAll
  deriving DecidableEq, Repr

inductive Answer where
  | seen (result : Except Fault (Option Token))
  | more (result : Except Fault Bool)
  | taken (result : Except Fault (Option Token))
  | rest (run : Run Token)

/-- The tokens and faults that the answer gives away: they are not to be had again. -/
def Answer.spent : Answer → List (Except Fault Token)
  | seen (.error fault) | more (.error fault) | taken (.error fault) => [.error fault]
  | taken (.ok (some token)) => [.ok token]
  | rest run => run.items.map .ok ++ run.fault.toList.map .error
  | _ => []

def answer (r : Reader) : Call → Answer × Reader
  | .peek => (.seen r.peek.1, r.peek.2)
  | .hasNext => (.more r.hasNext.1, r.hasNext.2)
  | .next => (.taken r.next.1, r.next.2)
  | .readAll => (.rest r.readAll.1, r.readAll.2)

def answers (r : Reader) : List Call → List Answer × Reader
  | [] => ([], r)
  | call :: calls =>
    ((r.answer call).1 :: ((r.answer call).2.answers calls).1, ((r.answer call).2.answers calls).2)

end Reader

open Reader (Call Answer)

/-- A place in a list of pieces, counted from zero. -/
structure Cursor where
  pieces : List Piece
  position : ℕ

namespace Cursor

def ofText (text : List Char) : Cursor := ⟨Text.pieces text, 0⟩

def forward (c : Cursor) : Cursor := { c with position := c.position + 1 }

def peek (c : Cursor) : Except Fault (Option Token) × Cursor :=
  match c.pieces[c.position]? with
  | none => (.ok none, c)
  | some p =>
    match p.token with
    | .ok token => (.ok (some token), c)
    | .error fault => (.error fault, c.forward)

def hasNext (c : Cursor) : Except Fault Bool × Cursor :=
  (c.peek.1.map Option.isSome, c.peek.2)

def next (c : Cursor) : Except Fault (Option Token) × Cursor :=
  match c.pieces[c.position]? with
  | none => (.ok none, c)
  | some p => (p.token.map some, c.forward)

/-- The pieces that the cursor has not passed. -/
def remaining (c : Cursor) : List Piece := c.pieces.drop c.position

lemma getElem?_position (c : Cursor) : c.pieces[c.position]? = c.remaining.head? := by
  rw [remaining, List.head?_drop]

lemma remaining_forward {c : Cursor} {p : Piece} {ps : List Piece} (h : c.remaining = p :: ps) :
    c.forward.remaining = ps := by
  rw [remaining, forward, ← List.tail_drop]
  exact congrArg List.tail h

lemma peek_end {c : Cursor} (h : c.remaining = []) : c.peek = (.ok none, c) := by
  rw [peek, getElem?_position, h]
  rfl

lemma peek_ok {c : Cursor} {p : Piece} {ps : List Piece} {token : Token}
    (h : c.remaining = p :: ps) (hp : p.token = .ok token) : c.peek = (.ok (some token), c) := by
  rw [peek, getElem?_position, h, List.head?_cons]
  simp only [hp]

lemma peek_error {c : Cursor} {p : Piece} {ps : List Piece} {fault : Fault}
    (h : c.remaining = p :: ps) (hp : p.token = .error fault) :
    c.peek = (.error fault, c.forward) := by
  rw [peek, getElem?_position, h, List.head?_cons]
  simp only [hp]

lemma next_end {c : Cursor} (h : c.remaining = []) : c.next = (.ok none, c) := by
  rw [next, getElem?_position, h]
  rfl

lemma next_piece {c : Cursor} {p : Piece} {ps : List Piece} (h : c.remaining = p :: ps) :
    c.next = (p.token.map some, c.forward) := by
  rw [next, getElem?_position, h]
  rfl

lemma length_remaining_next {c : Cursor} {token : Token} (h : c.next.1 = .ok (some token)) :
    c.next.2.remaining.length < c.remaining.length := by
  cases hr : c.remaining with
  | nil => rw [next_end hr] at h; cases h
  | cons p ps =>
    rw [next_piece hr, remaining_forward hr]
    exact Nat.lt_succ_self _

def readAll (c : Cursor) : Run Token × Cursor :=
  match _h : c.next.1 with
  | .ok (some token) => (c.next.2.readAll.1.prepend [token], c.next.2.readAll.2)
  | .ok none => (Run.ofList [], c.next.2)
  | .error fault => (Run.failed fault, c.next.2)
termination_by c.remaining.length
decreasing_by all_goals exact length_remaining_next (by assumption)

def answer (c : Cursor) : Call → Answer × Cursor
  | .peek => (.seen c.peek.1, c.peek.2)
  | .hasNext => (.more c.hasNext.1, c.hasNext.2)
  | .next => (.taken c.next.1, c.next.2)
  | .readAll => (.rest c.readAll.1, c.readAll.2)

def answers (c : Cursor) : List Call → List Answer × Cursor
  | [] => ([], c)
  | call :: calls =>
    ((c.answer call).1 :: ((c.answer call).2.answers calls).1, ((c.answer call).2.answers calls).2)

end Cursor

section Tracking

/-- The cursor stands before the piece of the held token, if there is one, and else before the
pieces that are still to be read. -/
inductive Tracks (r : Reader) (c : Cursor) : Prop
  | free (held : r.held = none) (remaining : c.remaining = r.pending)
  | holding (p : Piece) (token : Token) (held : r.held = some token)
      (remaining : c.remaining = p :: r.pending) (reads : p.token = .ok token)

variable {r : Reader} {c : Cursor}

lemma tracks_ofText (text : List Char) : Tracks (Reader.ofText text) (Cursor.ofText text) :=
  .free rfl rfl

lemma Reader.held_peek (r : Reader) :
    r.peek.2.held = match r.peek.1 with
      | .ok token => token
      | .error _ => none := by
  unfold peek
  split
  · rfl
  · unfold readPiece
    dsimp only
    split
    · rfl
    · split <;> rfl

lemma Tracks.peek (h : Tracks r c) : r.peek.1 = c.peek.1 ∧ Tracks r.peek.2 c.peek.2 := by
  cases h with
  | holding p token held remaining reads =>
    have hpeek : r.peek = (.ok (some token), r) := by simp [Reader.peek, held]
    rw [hpeek, Cursor.peek_ok remaining reads]
    exact ⟨rfl, .holding p token held remaining reads⟩
  | free held remaining =>
    cases hp : r.pending with
    | nil =>
      obtain ⟨hanswer, hheld, hpending⟩ := Reader.peek_end held hp
      rw [hp] at remaining
      rw [Cursor.peek_end remaining]
      exact ⟨hanswer, .free hheld (remaining.trans hpending.symm)⟩
    | cons p ps =>
      obtain ⟨hanswer, -, hpending⟩ := Reader.next_piece held hp
      have hheld := r.held_peek
      change r.peek.1 = _ at hanswer
      change r.peek.2.pending = ps at hpending
      rw [hp] at remaining
      rw [hanswer] at hheld ⊢
      -- the reader has passed the piece; the cursor passes it only if it is no token
      cases ht : p.token with
      | ok token =>
        rw [ht] at hheld
        rw [Cursor.peek_ok remaining ht]
        exact ⟨rfl, .holding p token hheld (hpending ▸ remaining) ht⟩
      | error fault =>
        rw [ht] at hheld
        rw [Cursor.peek_error remaining ht]
        exact ⟨rfl, .free hheld (hpending ▸ Cursor.remaining_forward remaining)⟩

lemma Tracks.hasNext (h : Tracks r c) :
    r.hasNext.1 = c.hasNext.1 ∧ Tracks r.hasNext.2 c.hasNext.2 :=
  ⟨congrArg (Except.map Option.isSome) h.peek.1, h.peek.2⟩

lemma Tracks.next (h : Tracks r c) : r.next.1 = c.next.1 ∧ Tracks r.next.2 c.next.2 := by
  cases h with
  | holding p token held remaining reads =>
    have hnext : r.next = (.ok (some token), { r with held := none }) := by
      simp [Reader.next, Reader.peek, held]
    rw [hnext, Cursor.next_piece remaining, reads]
    exact ⟨rfl, .free rfl (Cursor.remaining_forward remaining)⟩
  | free held remaining =>
    cases hp : r.pending with
    | nil =>
      obtain ⟨hanswer, -, hpending⟩ := Reader.peek_end held hp
      rw [hp] at remaining
      rw [Cursor.next_end remaining]
      exact ⟨hanswer, .free rfl (remaining.trans hpending.symm)⟩
    | cons p ps =>
      obtain ⟨hanswer, hheld, hpending⟩ := Reader.next_piece held hp
      rw [hp] at remaining
      rw [Cursor.next_piece remaining]
      exact ⟨hanswer, .free hheld (hpending ▸ Cursor.remaining_forward remaining)⟩

lemma Reader.readAll_eq (r : Reader) :
    r.readAll = match r.next.1 with
      | .ok (some token) => (r.next.2.readAll.1.prepend [token], r.next.2.readAll.2)
      | .ok none => (Run.ofList [], r.next.2)
      | .error fault => (Run.failed fault, r.next.2) := by
  rw [readAll]
  split <;> next hnext => simp only [hnext]

lemma Tracks.readAll (h : Tracks r c) :
    r.readAll.1 = c.readAll.1 ∧ Tracks r.readAll.2 c.readAll.2 := by
  fun_induction Cursor.readAll c generalizing r with
  | case1 c token hnext ih =>
    obtain ⟨hanswer, hafter⟩ := h.next
    obtain ⟨hrun, hlast⟩ := ih hafter
    rw [Reader.readAll_eq, hanswer, hnext]
    exact ⟨congrArg (Run.prepend [token]) hrun, hlast⟩
  | case2 c hnext =>
    obtain ⟨hanswer, hafter⟩ := h.next
    rw [Reader.readAll_eq, hanswer, hnext]
    exact ⟨rfl, hafter⟩
  | case3 c fault hnext =>
    obtain ⟨hanswer, hafter⟩ := h.next
    rw [Reader.readAll_eq, hanswer, hnext]
    exact ⟨rfl, hafter⟩

lemma Tracks.answer (h : Tracks r c) (call : Call) :
    (r.answer call).1 = (c.answer call).1 ∧ Tracks (r.answer call).2 (c.answer call).2 := by
  cases call with
  | peek => exact ⟨congrArg Answer.seen h.peek.1, h.peek.2⟩
  | hasNext => exact ⟨congrArg Answer.more h.hasNext.1, h.hasNext.2⟩
  | next => exact ⟨congrArg Answer.taken h.next.1, h.next.2⟩
  | readAll => exact ⟨congrArg Answer.rest h.readAll.1, h.readAll.2⟩

lemma Tracks.answers (h : Tracks r c) (calls : List Call) :
    (r.answers calls).1 = (c.answers calls).1 ∧ Tracks (r.answers calls).2 (c.answers calls).2 := by
  induction calls generalizing r c with
  | nil => exact ⟨rfl, h⟩
  | cons call calls ih =>
    obtain ⟨hanswer, hafter⟩ := h.answer call
    obtain ⟨hanswers, hlast⟩ := ih hafter
    exact ⟨congrArg₂ List.cons hanswer hanswers, hlast⟩

end Tracking

namespace Cursor

lemma spent_peek (c : Cursor) :
    c.remaining.map Piece.token =
      (Answer.seen c.peek.1).spent ++ c.peek.2.remaining.map Piece.token := by
  cases hr : c.remaining with
  | nil => rw [peek_end hr, hr]; rfl
  | cons p ps =>
    cases ht : p.token with
    | ok token => rw [peek_ok hr ht, hr]; rfl
    | error fault => rw [peek_error hr ht, remaining_forward hr, List.map_cons, ht]; rfl

lemma spent_next (c : Cursor) :
    c.remaining.map Piece.token =
      (Answer.taken c.next.1).spent ++ c.next.2.remaining.map Piece.token := by
  cases hr : c.remaining with
  | nil => rw [next_end hr, hr]; rfl
  | cons p ps =>
    rw [next_piece hr, remaining_forward hr, List.map_cons]
    cases p.token <;> rfl

lemma spent_readAll (c : Cursor) :
    c.remaining.map Piece.token =
      (Answer.rest c.readAll.1).spent ++ c.readAll.2.remaining.map Piece.token := by
  fun_induction readAll c with
  | case1 c token hnext ih =>
    rw [c.spent_next, hnext, ih]
    rfl
  | case2 c hnext =>
    rw [c.spent_next, hnext]
    rfl
  | case3 c fault hnext =>
    rw [c.spent_next, hnext]
    rfl

lemma spent_answer (c : Cursor) (call : Call) :
    c.remaining.map Piece.token =
      (c.answer call).1.spent ++ (c.answer call).2.remaining.map Piece.token := by
  cases call with
  | peek => exact c.spent_peek
  | hasNext =>
    have hspent : (Answer.more c.hasNext.1).spent = (Answer.seen c.peek.1).spent := by
      rw [hasNext]
      cases c.peek.1 <;> rfl
    rw [answer, hspent]
    exact c.spent_peek
  | next => exact c.spent_next
  | readAll => exact c.spent_readAll

lemma spent_answers (c : Cursor) (calls : List Call) :
    c.remaining.map Piece.token =
      (c.answers calls).1.flatMap Answer.spent ++
        (c.answers calls).2.remaining.map Piece.token := by
  induction calls generalizing c with
  | nil => rfl
  | cons call calls ih =>
    rw [c.spent_answer call, ih, ← List.append_assoc]
    rfl

end Cursor

/-- A reader answers every sequence of calls as the cursor does. Every piece is spent once, in the
order of the text, and one that is no token is spent by the fault that names it. -/
theorem answers_eq_cursor (text : List Char) (calls : List Call) :
    ((Reader.ofText text).answers calls).1 = ((Cursor.ofText text).answers calls).1 ∧
    (pieces text).map Piece.token =
      ((Reader.ofText text).answers calls).1.flatMap Answer.spent ++
        ((Cursor.ofText text).answers calls).2.remaining.map Piece.token ∧
    (∀ p, p ∈ pieces text ↔ StandsAt text p.text p.start) ∧
    (pieces text).Pairwise (fun p q => p.start < q.start) ∧
    ∀ p ∈ pieces text, ∀ fault, p.token = .error fault →
      (Number.isMisspelt p.text = true ∧ fault = .unreadableNumber p.text) ∨
        (Number.isMisspelt p.text = false ∧ fault = Token.unknown p.text p.start) := by
  have hanswers := ((tracks_ofText text).answers calls).1
  refine ⟨hanswers, ?_, fun p => mem_pieces_iff, pairwise_piecesFrom 0 text,
    fun p _ fault h => Lexeme.ofPiece_eq_error h⟩
  rw [hanswers]
  exact (Cursor.ofText text).spent_answers calls

/-- A piece that is no token is reported to the first that asks. -/
theorem answers_eq_cursor_unknown :
    let text := "x 1".toList
    let calls := [.peek, .hasNext, .next, .readAll]
    ⟨['x'], 0⟩ ∈ pieces text ∧ Piece.token ⟨['x'], 0⟩ = .error (Token.unknown ['x'] 0) ∧
      Number.isMisspelt ['x'] = false ∧
      ((Reader.ofText text).answers calls).1 = ((Cursor.ofText text).answers calls).1 := by
  intro text calls
  obtain ⟨hanswers, -, -, -, hfault⟩ := answers_eq_cursor text calls
  have hpieces : pieces "x 1".toList = [⟨['x'], 0⟩, ⟨['1'], 2⟩] := by cbv
  have hx : ⟨['x'], 0⟩ ∈ pieces text := hpieces ▸ List.mem_cons_self
  have htoken : Piece.token ⟨['x'], 0⟩ = .error (Token.unknown ['x'] 0) := rfl
  rcases hfault _ hx _ htoken with ⟨-, hunreadable⟩ | ⟨hspelt, -⟩
  · cases hunreadable
  · exact ⟨hx, htoken, hspelt, hanswers⟩

end PostfixCalculator
