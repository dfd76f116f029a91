import PostfixCalculator.Text.Piece
import Mathlib.Data.List.TakeWhile
import Mathlib.Tactic

/-!
# Words of a text

The words of a text are its pieces without their places. A blank between two texts keeps
their words apart, and words with single spaces between them are read back. The pieces are
the words that stand between blanks, each with the number of characters before it.
-/
namespace PostfixCalculator.Text

def words (text : List Char) : List (List Char) := (pieces text).map Piece.text

/-- What a piece consists of: some characters, and no blank among them. -/
structure IsWord (word : List Char) : Prop where
  ne_nil : word ≠ []
  solid : ∀ c ∈ word, isBlank c = false

lemma piecesFrom_nil (start : ℕ) : piecesFrom start [] = [] := by rw [piecesFrom]

lemma piecesFrom_blank {c : Char} (h : isBlank c = true) (start : ℕ) (rest : List Char) :
    piecesFrom start (c :: rest) = piecesFrom (start + 1) rest := by
  rw [piecesFrom, if_pos h]

lemma piecesFrom_solid {c : Char} (h : isBlank c = false) (start : ℕ) (rest : List Char) :
    piecesFrom start (c :: rest) = ⟨c :: firstRun rest, start⟩ ::
      piecesFrom (start + 1 + (firstRun rest).length) (afterRun rest) := by
  rw [piecesFrom, if_neg (by simp [h])]

lemma firstRun_append_blank {c : Char} (h : isBlank c = true) (a b : List Char) :
    firstRun (a ++ c :: b) = firstRun a ∧ afterRun (a ++ c :: b) = afterRun a ++ c :: b := by
  induction a with
  | nil => simp [firstRun, afterRun, h]
  | cons x a ih =>
    unfold firstRun afterRun at *
    cases hx : isBlank x
    · simp [hx, ih.1, ih.2]
    · simp [hx]

lemma length_firstRun_add_afterRun (a : List Char) :
    (firstRun a).length + (afterRun a).length = a.length := by
  rw [← List.length_append, firstRun_append_afterRun]

/-- A blank separates the pieces before it from those after it. -/
theorem piecesFrom_append_blank {c : Char} (h : isBlank c = true) (start : ℕ) (a b : List Char) :
    piecesFrom start (a ++ c :: b) =
      piecesFrom start a ++ piecesFrom (start + a.length + 1) b := by
  fun_induction piecesFrom start a with
  | case1 start => rw [List.nil_append, piecesFrom_blank h, List.nil_append, List.length_nil,
      add_zero]
  | case2 start x a hx ih =>
    rw [List.cons_append, piecesFrom_blank hx, ih, List.length_cons, add_assoc start 1, add_comm 1]
  | case3 start x a hx ih =>
    obtain ⟨hfirst, hafter⟩ := firstRun_append_blank h a b
    have hlength := length_firstRun_add_afterRun a
    rw [List.cons_append, piecesFrom_solid (by simpa using hx), hfirst, hafter, ih,
      List.cons_append, List.length_cons]
    congr 3
    omega

lemma map_text_piecesFrom (start : ℕ) (text : List Char) :
    (piecesFrom start text).map Piece.text = words text := by
  have shift : ∀ start start', (piecesFrom start text).map Piece.text =
      (piecesFrom start' text).map Piece.text := by
    intro start start'
    fun_induction piecesFrom start text generalizing start' with
    | case1 start => rw [piecesFrom_nil]
    | case2 start x rest hx ih => rw [piecesFrom_blank hx, ih (start' + 1)]
    | case3 start x rest hx ih =>
      rw [piecesFrom_solid (by simpa using hx), List.map_cons, List.map_cons, ih]
  exact shift start 0

theorem words_append_blank {c : Char} (h : isBlank c = true) (a b : List Char) :
    words (a ++ c :: b) = words a ++ words b := by
  rw [words, pieces, piecesFrom_append_blank h, List.map_append, map_text_piecesFrom,
    map_text_piecesFrom]

lemma firstRun_word {word : List Char} (h : ∀ c ∈ word, isBlank c = false) :
    firstRun word = word ∧ afterRun word = [] := by
  constructor
  · exact List.takeWhile_eq_self_iff.2 fun c hc => by simp [h c hc]
  · exact List.dropWhile_eq_nil_iff.2 fun c hc => by simp [h c hc]

lemma piecesFrom_word {word : List Char} (h : IsWord word) (start : ℕ) :
    piecesFrom start word = [⟨word, start⟩] := by
  obtain ⟨hne, hsolid⟩ := h
  cases word with
  | nil => exact absurd rfl hne
  | cons c rest =>
    obtain ⟨hc, hrest⟩ := List.forall_mem_cons.1 hsolid
    rw [piecesFrom_solid hc, (firstRun_word hrest).1, (firstRun_word hrest).2, piecesFrom_nil]

lemma words_word {word : List Char} (h : IsWord word) : words word = [word] := by
  rw [words, pieces, piecesFrom_word h, List.map_singleton]

/-- Words one after the other, with one character between each two of them. -/
def inRow (start : ℕ) : List (List Char) → List Piece
  | [] => []
  | w :: ws => ⟨w, start⟩ :: inRow (start + w.length + 1) ws

/-- Words with single spaces between them are read back, each at its place. -/
theorem piecesFrom_intercalate {ws : List (List Char)} (h : ∀ w ∈ ws, IsWord w) (start : ℕ) :
    piecesFrom start (List.intercalate [' '] ws) = inRow start ws := by
  induction ws generalizing start with
  | nil => exact piecesFrom_nil start
  | cons w ws ih =>
    obtain ⟨hw, hws⟩ := List.forall_mem_cons.1 h
    cases ws with
    | nil => simpa [inRow] using piecesFrom_word hw start
    | cons w' ws =>
      rw [List.intercalate_cons_cons, List.append_assoc, List.singleton_append,
        piecesFrom_append_blank (by decide), piecesFrom_word hw, ih hws]
      rfl

/-- After `start` characters of the text the word stands between blanks or ends of the text. -/
def StandsAt (text word : List Char) (start : ℕ) : Prop :=
  ∃ before after, text = before ++ (word ++ after) ∧ before.length = start ∧ IsWord word ∧
    (∀ c ∈ before.getLast?, isBlank c = true) ∧ ∀ c ∈ after.head?, isBlank c = true

lemma isBlank_head_afterRun (text : List Char) : ∀ c ∈ (afterRun text).head?, isBlank c = true := by
  intro c hc
  have hhead := List.head?_dropWhile_not (fun c => !isBlank c) text
  rw [afterRun, Option.mem_def] at hc
  rw [hc] at hhead
  simpa using hhead

lemma isWord_firstRun {c : Char} (h : isBlank c = false) (rest : List Char) :
    IsWord (c :: firstRun rest) := by
  refine ⟨List.cons_ne_nil _ _, fun x hx => ?_⟩
  rcases List.mem_cons.1 hx with rfl | hx
  · exact h
  · simpa using List.mem_takeWhile_imp hx

/-- A piece stands at its place, after any blanks and other pieces. -/
lemma standsAt_of_mem_piecesFrom {start : ℕ} {text : List Char} {p : Piece}
    (h : p ∈ piecesFrom start text) :
    ∃ i, p.start = start + i ∧ StandsAt text p.text i := by
  fun_induction piecesFrom start text with
  | case1 start => cases h
  | case2 start c rest hc ih =>
    obtain ⟨i, hi, before, after, rfl, rfl, hword, hbefore, hafter⟩ := ih h
    refine ⟨before.length + 1, by omega, c :: before, after, rfl, rfl, hword, ?_, hafter⟩
    cases before with
    | nil => simpa using hc
    | cons b before => simpa using hbefore
  | case3 start c rest hc ih =>
    have hc : isBlank c = false := by simpa using hc
    have hsplit : c :: rest = (c :: firstRun rest) ++ afterRun rest := by
      rw [List.cons_append, firstRun_append_afterRun]
    rcases List.mem_cons.1 h with rfl | h
    · exact ⟨0, rfl, [], afterRun rest, hsplit, rfl, isWord_firstRun hc rest, by simp,
        isBlank_head_afterRun rest⟩
    · obtain ⟨i, hi, before, after, hrest, rfl, hword, hbefore, hafter⟩ := ih h
      refine ⟨(c :: firstRun rest).length + before.length, ?_,
        (c :: firstRun rest) ++ before, after, ?_, List.length_append, hword, ?_, hafter⟩
      · rw [hi, List.length_cons]
        omega
      · rw [hsplit, hrest, List.append_assoc]
      · cases before with
        | cons b before =>
          rwa [List.getLast?_append_of_ne_nil _ (List.cons_ne_nil b before)]
        | nil =>
          -- the run before would have gone on into the piece
          have hhead := isBlank_head_afterRun rest
          obtain ⟨x, xs, hxs⟩ := List.exists_cons_of_ne_nil hword.ne_nil
          rw [hrest, List.nil_append, hxs] at hhead
          have hblank := hhead x rfl
          rw [hword.solid x (hxs ▸ List.mem_cons_self)] at hblank
          cases hblank

theorem pairwise_piecesFrom (start : ℕ) (text : List Char) :
    (piecesFrom start text).Pairwise fun p q => p.start < q.start := by
  fun_induction piecesFrom start text with
  | case1 start => exact List.Pairwise.nil
  | case2 start c rest hc ih => exact ih
  | case3 start c rest hc ih =>
    refine List.pairwise_cons.2 ⟨fun q hq => ?_, ih⟩
    obtain ⟨i, hi, -⟩ := standsAt_of_mem_piecesFrom hq
    dsimp only
    omega

lemma piecesFrom_word_append {word after : List Char} (hword : IsWord word)
    (hafter : ∀ c ∈ after.head?, isBlank c = true) (start : ℕ) :
    ∃ later, piecesFrom start (word ++ after) = ⟨word, start⟩ :: later := by
  cases after with
  | nil => exact ⟨[], by rw [List.append_nil, piecesFrom_word hword]⟩
  | cons c after =>
    have hpieces := piecesFrom_append_blank (hafter c rfl) start word after
    rw [piecesFrom_word hword, List.singleton_append] at hpieces
    exact ⟨_, hpieces⟩

/-- The pieces of a text are the words that stand between blanks. -/
theorem mem_pieces_iff {text : List Char} {p : Piece} :
    p ∈ pieces text ↔ StandsAt text p.text p.start := by
  constructor
  · intro h
    obtain ⟨i, hi, hstands⟩ := standsAt_of_mem_piecesFrom h
    rwa [hi, zero_add]
  · obtain ⟨word, start⟩ := p
    rintro ⟨before, after, rfl, rfl, hword, hbefore, hafter⟩
    obtain ⟨later, hlater⟩ := piecesFrom_word_append hword hafter before.length
    rcases before.eq_nil_or_concat' with rfl | ⟨before, c, rfl⟩
    · rw [pieces, List.nil_append]
      exact hlater ▸ List.mem_cons_self
    · have hc : isBlank c = true := hbefore c (by simp)
      rw [List.length_append, List.length_singleton] at hlater ⊢
      rw [pieces, List.append_assoc, List.singleton_append, piecesFrom_append_blank hc, zero_add,
        hlater]
      exact List.mem_append_right _ List.mem_cons_self

end PostfixCalculator.Text
