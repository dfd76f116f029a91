import PostfixCalculator.Proofs.Lexeme
import PostfixCalculator.Proofs.Places

/-!
# Reading a text

A text is read without a fault when all its words are lexemes. A blank lets one text be
read after another, and written tokens are read back.
-/
namespace PostfixCalculator

open Text

variable {α : Type}

namespace Run

/-- A run that goes on with another one unless it ended in a fault. -/
def andThen (first second : Run α) : Run α :=
  match first.fault with
  | none => second.prepend first.items
  | some _ => first

lemma ofResults_append (rs ss : List (Except Fault α)) :
    ofResults (rs ++ ss) = (ofResults rs).andThen (ofResults ss) := by
  induction rs with
  | nil => rfl
  | cons r rs ih =>
    cases r with
    | error fault => rfl
    | ok item =>
      rw [List.cons_append, ofResults, ofResults, ih]
      rcases ofResults rs with ⟨items, _ | fault⟩ <;> rfl

lemma ofResults_map_ok (items : List α) : ofResults (items.map .ok) = ofList items := by
  induction items with
  | nil => rfl
  | cons item items ih =>
    rw [List.map_cons, ofResults, ih]
    rfl

lemma eq_map_ok_of_fault {rs : List (Except Fault α)} (h : (ofResults rs).fault = none) :
    rs = (ofResults rs).items.map .ok := by
  induction rs with
  | nil => rfl
  | cons r rs ih =>
    cases r with
    | error fault => cases h
    | ok item => exact congrArg (Except.ok item :: ·) (ih h)

end Run

theorem reading_append_blank {c : Char} (h : isBlank c = true) (a b : List Char) :
    reading (a ++ c :: b) = (reading a).andThen (reading b) := by
  rw [reading, words_append_blank h, List.map_append, Run.ofResults_append]
  rfl

lemma reading_between (before inner after : List Char) :
    reading (before ++ ' ' :: (inner ++ ' ' :: after)) =
      (reading before).andThen ((reading inner).andThen (reading after)) := by
  have hblank : isBlank ' ' = true := by decide
  rw [reading_append_blank hblank, reading_append_blank hblank]

/-- The token of a lexeme at the start of a text. -/
def Lexeme.token (x : Lexeme) : Token := ⟨x.shape, 0⟩

theorem reading_of_words {text : List Char} {xs : List Lexeme}
    (h : words text = xs.map Lexeme.word) : reading text = Run.ofList (xs.map Lexeme.token) := by
  rw [reading, h, ← Run.ofResults_map_ok, List.map_map, List.map_map]
  congr 1
  exact List.map_congr_left fun x _ => x.ofPiece_word 0

lemma reading_canonical (x : Lexeme) : reading x.canonical.word = Run.ofList [x.token] := by
  have hwords : words x.canonical.word = [x.canonical].map Lexeme.word :=
    words_word x.isWord_canonical
  rw [reading_of_words hwords]
  simp [Lexeme.token]

lemma reading_render (value : Float) :
    reading (Number.render value) = Run.ofList [.operand value 0] :=
  reading_canonical (.number _ value (Lexeme.isNumber_render value))

lemma reading_group {inner : List Char} {tokens : List Token}
    (h : reading inner = Run.ofList tokens) :
    reading (['('] ++ ' ' :: (inner ++ ' ' :: [')'])) =
      Run.ofList (Lexeme.opening.token :: (tokens ++ [Lexeme.closing.token])) := by
  rw [reading_between, h]
  show (reading Lexeme.opening.canonical.word).andThen
    ((Run.ofList tokens).andThen (reading Lexeme.closing.canonical.word)) = _
  rw [reading_canonical, reading_canonical]
  rfl

/-- A text that is read without a fault consists of lexemes. -/
theorem exists_lexemes {text : List Char} (h : (reading text).fault = none) :
    ∃ xs : List Lexeme, words text = xs.map Lexeme.word := by
  have hread : ∀ word ∈ words text, word ∈ Set.range Lexeme.word := by
    intro word hword
    have hresult := List.mem_map_of_mem (f := fun word => Token.ofPiece word 0) hword
    rw [Run.eq_map_ok_of_fault h] at hresult
    obtain ⟨token, -, htoken⟩ := List.mem_map.1 hresult
    obtain ⟨x, hx, -⟩ := Lexeme.of_ofPiece htoken.symm
    exact ⟨x, hx⟩
  obtain ⟨xs, hxs⟩ := (Set.range_list_map Lexeme.word).ge hread
  exact ⟨xs, hxs.symm⟩

end PostfixCalculator
