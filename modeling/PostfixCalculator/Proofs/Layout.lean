import PostfixCalculator.Proofs.Grammar

/-!
# Layouts and derivations

Every sequence of lexemes with matching brackets has a layout. A layout that leaves one value
is a derivation when no two atoms stand side by side.
-/
namespace PostfixCalculator

namespace Lexeme

def endsAtom : Lexeme → Bool
  | number .. | closing => true
  | _ => false

def beginsAtom : Lexeme → Bool
  | number .. | opening => true
  | _ => false

def Apart (x y : Lexeme) : Prop := ¬ (x.endsAtom = true ∧ y.beginsAtom = true)

end Lexeme

/-- No two atoms stand side by side. -/
def Spaced (xs : List Lexeme) : Prop := xs.IsChain Lexeme.Apart

variable {c : Category} {xs ys : List Lexeme}

namespace Derivation

def layout {c : Category} : Derivation c → Layout c
  | number word value reads => .number .nothing word value reads
  | bracketed inner => .bracketed .nothing inner.layout
  | single h inner => .single h inner.layout
  | joined op h left right => .joined op h left.layout right.layout

@[simp] lemma lexemes_layout (d : Derivation c) : d.layout.lexemes = d.lexemes := by
  induction d <;> simp_all [layout, lexemes, Layout.lexemes]

lemma height_layout (d : Derivation c) (n : ℕ) : d.layout.height n = some (n + 1) := by
  induction d generalizing n with
  | number word value reads => rfl
  | bracketed inner ih => exact ih n
  | single h inner ih => exact ih n
  | joined op h left right ihl ihr =>
    simp [layout, Layout.height, ihl, ihr]

lemma spaced_lexemes (d : Derivation c) : Spaced d.lexemes := by
  unfold Spaced
  induction d with
  | number word value reads => exact List.isChain_singleton _
  | bracketed inner ih =>
    rw [lexemes, ← List.singleton_append, List.isChain_append, List.isChain_append]
    refine ⟨List.isChain_singleton _, ⟨ih, List.isChain_singleton _, ?_⟩, ?_⟩
    · simp [Lexeme.Apart, Lexeme.beginsAtom]
    · simp [Lexeme.Apart, Lexeme.endsAtom]
  | single h inner ih => exact ih
  | joined op h left right ihl ihr =>
    rw [lexemes, ← List.singleton_append, List.isChain_append, List.isChain_append]
    refine ⟨ihl, ⟨List.isChain_singleton _, ihr, ?_⟩, ?_⟩
    · simp [Lexeme.Apart, Lexeme.endsAtom]
    · simp [Lexeme.Apart, Lexeme.beginsAtom]

end Derivation

namespace Layout

/-- Where atoms stand side by side, the last of them ends the lexemes. -/
lemma eq_nothing_or_endsAtom (a : Layout .atom) :
    a = nothing ∨ ∃ before last, a.lexemes = before ++ [last] ∧ last.endsAtom = true := by
  cases a with
  | nothing => exact .inl rfl
  | number before word value reads => exact .inr ⟨_, _, rfl, rfl⟩
  | bracketed before inner =>
    exact .inr ⟨before.lexemes ++ .opening :: inner.lexemes, .closing, by simp [lexemes], rfl⟩
  | single h inner => exact absurd rfl h
  | joined op h left right => exact absurd h op.category_ne_atom

lemma eq_nothing_of_spaced {a : Layout .atom} {first : Lexeme} (hfirst : first.beginsAtom = true)
    (h : Spaced (a.lexemes ++ first :: ys)) : a = nothing := by
  rcases a.eq_nothing_or_endsAtom with rfl | ⟨before, last, hlast, hends⟩
  · rfl
  · unfold Spaced at h
    rw [hlast, List.isChain_append] at h
    have happart := h.2.2 last (by simp) first (by simp)
    exact absurd ⟨hends, hfirst⟩ happart

/-- Without atoms side by side a layout adds at most one value, and it adds one only if it is
a derivation. -/
theorem height_le_of_spaced (l : Layout c) (h : Spaced l.lexemes) {n m : ℕ}
    (hm : l.height n = some m) :
    m ≤ n + 1 ∧ (m = n + 1 → ∃ d : Derivation c, d.lexemes = l.lexemes) := by
  -- an operator takes one value more than it leaves, so both operands must add one
  induction l generalizing n m with
  | nothing => cases hm; omega
  | number before word value reads ih =>
    obtain rfl := eq_nothing_of_spaced rfl h
    cases hm
    exact ⟨le_rfl, fun _ => ⟨.number word value reads, rfl⟩⟩
  | bracketed before inner ihb ih =>
    obtain rfl := eq_nothing_of_spaced rfl h
    have hinner : Spaced inner.lexemes :=
      (List.isChain_append.1 (List.isChain_cons.1 h).2).1
    obtain ⟨hle, hderive⟩ := ih hinner hm
    refine ⟨hle, fun hone => ?_⟩
    obtain ⟨d, hd⟩ := hderive hone
    exact ⟨.bracketed d, by rw [Derivation.lexemes, hd]; rfl⟩
  | single hc inner ih =>
    obtain ⟨hle, hderive⟩ := ih h hm
    refine ⟨hle, fun hone => ?_⟩
    obtain ⟨d, hd⟩ := hderive hone
    exact ⟨.single hc d, hd⟩
  | joined op hc left right ihl ihr =>
    obtain ⟨hleft, hright, -⟩ := List.isChain_append.1 h
    simp only [height, Option.bind_eq_bind, Option.bind_eq_some_iff,
      Option.ite_none_right_eq_some, Option.some.injEq] at hm
    obtain ⟨k, hk, j, hj, htwo, rfl⟩ := hm
    obtain ⟨hlel, hdl⟩ := ihl hleft hk
    obtain ⟨hler, hdr⟩ := ihr (List.isChain_cons.1 hright).2 hj
    refine ⟨by omega, fun hone => ?_⟩
    obtain ⟨dl, hdl⟩ := hdl (by omega)
    obtain ⟨dr, hdr⟩ := hdr (by omega)
    exact ⟨.joined op hc dl dr, by rw [Derivation.lexemes, hdl, hdr]; rfl⟩

lemma exists_empty (c : Category) : ∃ l : Layout c, l.lexemes = [] :=
  ⟨ofAtom .nothing c, by cases c <;> rfl⟩

lemma exists_append (hatom : ∀ a : Layout .atom, ∃ b : Layout .atom, b.lexemes = a.lexemes ++ ys)
    (l : Layout c) : ∃ l' : Layout c, l'.lexemes = l.lexemes ++ ys := by
  induction l with
  | nothing => exact hatom _
  | number before word value reads ih => exact hatom _
  | bracketed before inner ihb ih => exact hatom _
  | single h inner ih =>
    obtain ⟨inner', hinner⟩ := ih
    exact ⟨.single h inner', hinner⟩
  | joined op h left right ihl ihr =>
    obtain ⟨right', hright⟩ := ihr
    exact ⟨.joined op h left right', by simp [lexemes, hright]⟩

lemma exists_joined (l : Layout c) {op : Operator} (h : op.category = c) :
    ∃ l' : Layout c, l'.lexemes = l.lexemes ++ [.operator op] := by
  obtain ⟨right, hright⟩ := exists_empty c.operand
  exact ⟨.joined op h l right, by rw [lexemes, hright]⟩

/-- An operator that binds tightly enough joins the end of a layout to what will follow. -/
lemma exists_append_operator (l : Layout c) {op : Operator} (h : c.precedence ≤ op.precedence) :
    ∃ l' : Layout c, l'.lexemes = l.lexemes ++ [.operator op] := by
  have hatom : ¬ Category.atom.precedence ≤ op.precedence := by cases op <;> decide
  induction l with
  | nothing => exact absurd h hatom
  | number before word value reads ih => exact absurd h hatom
  | bracketed before inner ihb ih => exact absurd h hatom
  | @single c hc inner ih =>
    by_cases hop : op.category = c
    · exact exists_joined (.single hc inner) hop
    · obtain ⟨inner', hinner⟩ := ih (op.precedence_operand_le h hop)
      exact ⟨.single hc inner', hinner⟩
  | @joined c op' hc left right ihl ihr =>
    by_cases hop : op.category = c
    · exact exists_joined (.joined op' hc left right) hop
    · obtain ⟨right', hright⟩ := ihr (op.precedence_operand_le h hop)
      exact ⟨.joined op' hc left right', by simp [lexemes, hright]⟩

end Layout

/-- Layouts one after the other with an opening bracket between each two of them. -/
inductive Unfinished : ℕ → List Lexeme → Prop
  | layout (l : Layout .expression) : Unfinished 0 l.lexemes
  | opened {n : ℕ} {xs : List Lexeme} (before : Unfinished n xs) (l : Layout .expression) :
      Unfinished (n + 1) (xs ++ .opening :: l.lexemes)

namespace Unfinished

variable {n : ℕ}

lemma append (h : Unfinished n xs)
    (hlast : ∀ l : Layout .expression, ∃ l' : Layout .expression, l'.lexemes = l.lexemes ++ ys) :
    Unfinished n (xs ++ ys) := by
  cases h with
  | layout l =>
    obtain ⟨l', hl'⟩ := hlast l
    rw [← hl']
    exact layout l'
  | opened before l =>
    obtain ⟨l', hl'⟩ := hlast l
    rw [List.append_assoc, List.cons_append, ← hl']
    exact opened before l'

lemma append_number (h : Unfinished n xs) {word : List Char} {value : Float}
    (reads : IsNumber word value) : Unfinished n (xs ++ [.number word value reads]) :=
  h.append (Layout.exists_append fun a => ⟨.number a word value reads, rfl⟩)

lemma append_operator (h : Unfinished n xs) (op : Operator) :
    Unfinished n (xs ++ [.operator op]) :=
  h.append fun l => l.exists_append_operator (by cases op <;> decide)

lemma append_opening (h : Unfinished n xs) : Unfinished (n + 1) (xs ++ [.opening]) := by
  obtain ⟨l, hl⟩ := Layout.exists_empty .expression
  rw [← hl]
  exact opened h l

lemma append_closing (h : Unfinished (n + 1) xs) : Unfinished n (xs ++ [.closing]) := by
  cases h with
  | opened before l =>
    rw [List.append_assoc, List.cons_append]
    exact before.append (Layout.exists_append fun a => ⟨.bracketed a l, rfl⟩)

/-- Either all closing brackets match, or one of them comes after a finished expression. -/
theorem or_closing (xs : List Lexeme) :
    (∃ n, Unfinished n xs) ∨
      ∃ (l : Layout .expression) (rest : List Lexeme), xs = l.lexemes ++ .closing :: rest := by
  induction xs using List.reverseRecOn with
  | nil =>
    obtain ⟨l, hl⟩ := Layout.exists_empty .expression
    exact .inl ⟨0, hl ▸ layout l⟩
  | append_singleton xs x ih =>
    rcases ih with ⟨n, h⟩ | ⟨l, rest, rfl⟩
    · cases x with
      | number word value reads => exact .inl ⟨n, h.append_number reads⟩
      | operator op => exact .inl ⟨n, h.append_operator op⟩
      | opening => exact .inl ⟨n + 1, h.append_opening⟩
      | closing =>
        cases n with
        | succ n => exact .inl ⟨n, h.append_closing⟩
        | zero =>
          obtain ⟨l⟩ := h
          exact .inr ⟨l, [], rfl⟩
    · exact .inr ⟨l, rest ++ [x], by simp⟩

end Unfinished

end PostfixCalculator
