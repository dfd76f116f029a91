import PostfixCalculator.Proofs.Number.Comparison
import PostfixCalculator.Proofs.Rendering

/-!
# Distinct tokens and expressions

Tokens are equal if they stand for the same, wherever they stand: operands that compare as equal
or are both no numbers, operators that group alike, brackets of one kind. This is an equivalence,
hashes respect it, and for expressions both go position by position. So a list has a number of
distinct elements, and a hash table counts it.
-/
namespace PostfixCalculator

open Number

/-- Shapes that stand for the same. All operands that are not numbers do, though none of them
compares as equal to itself. -/
inductive Shape.Same : Shape → Shape → Prop
  | number {x y : Float} (h : (x == y) = true) : Same (.operand x) (.operand y)
  | notNumber {x y : Float} (hx : x.isNaN = true) (hy : y.isNaN = true) :
      Same (.operand x) (.operand y)
  | operator (op : Operator) (grouping : Associativity) :
      Same (.operator op grouping) (.operator op grouping)
  | opening : Same .opening .opening
  | closing : Same .closing .closing
  | bare : Same .bare .bare

lemma Shape.key_eq_iff_same {s t : Shape} : s.key = t.key ↔ s.Same t := by
  constructor
  · intro h
    cases s with
    | operand x =>
      cases t with
      | operand y =>
        rcases canonicalBits_eq_iff_beq.1 (Key.number.inj h) with hbeq | ⟨hx, hy⟩
        · exact .number hbeq
        · exact .notNumber hx hy
      | _ => cases h
    | operator op grouping =>
      cases t with
      | operator op' grouping' =>
        obtain ⟨rfl, rfl⟩ := Key.operator.inj h
        exact .operator op grouping
      | _ => cases h
    | opening =>
      cases t with
      | opening => exact .opening
      | _ => cases h
    | closing =>
      cases t with
      | closing => exact .closing
      | _ => cases h
    | bare =>
      cases t with
      | bare => exact .bare
      | _ => cases h
  · intro h
    cases h with
    | number hbeq => exact congrArg Key.number (canonicalBits_eq_iff_beq.2 (.inl hbeq))
    | notNumber hx hy => exact congrArg Key.number (canonicalBits_eq_iff_beq.2 (.inr ⟨hx, hy⟩))
    | _ => rfl

namespace Token

instance : EquivBEq Token where
  rfl := beq_iff.2 rfl
  symm h := beq_iff.2 (beq_iff.1 h).symm
  trans h h' := beq_iff.2 ((beq_iff.1 h).trans (beq_iff.1 h'))

instance : LawfulHashable Token where
  hash_eq _ _ h := congrArg (fun key : Key => hash key) (beq_iff.1 h)

lemma beq_iff_same {a b : Token} : (a == b) = true ↔ a.shape.Same b.shape :=
  beq_iff.trans Shape.key_eq_iff_same

/-- The text of a token that can be read tells its shape. -/
lemma shape_eq_of_render {a b : Token} (ha : a.Readable) (hb : b.Readable)
    (h : a.render = b.render) : a.shape = b.shape := by
  have hread := (ofPiece_render (readable_iff.1 ha)).2 0
  rw [h, (ofPiece_render (readable_iff.1 hb)).2 0] at hread
  exact (congrArg Token.shape (Except.ok.inj hread)).symm

end Token

namespace Expression

instance : EquivBEq Expression where
  rfl := beq_iff_keys.2 rfl
  symm h := beq_iff_keys.2 (beq_iff_keys.1 h).symm
  trans h h' := beq_iff_keys.2 ((beq_iff_keys.1 h).trans (beq_iff_keys.1 h'))

lemma beq_iff_forall₂ {a b : Expression} : (a == b) = true ↔
    List.Forall₂ (fun t u => (t == u) = true) a.tokens b.tokens := by
  simp only [Expression.beq_iff, Token.beq_iff]

instance : LawfulHashable Expression where
  hash_eq _ _ h := hash_eq_of_keys (beq_iff_keys.1 h)

end Expression

section

variable {α : Type} [BEq α] {xs rs ss : List α}

/-- One of each of the elements of a list, where equal elements are one. -/
structure OneOfEach (xs rs : List α) : Prop where
  apart : rs.Pairwise fun r s => (r == s) = false
  same : ∀ x, rs.contains x = xs.contains x

/-- The number of distinct elements of a list: others can be dropped until one of each is left,
and however one of each is chosen, there are as many. -/
structure HasDistinct (xs : List α) (count : ℕ) : Prop where
  exists_oneOfEach : ∃ rs, rs.Sublist xs ∧ OneOfEach xs rs
  length_eq : ∀ rs, OneOfEach xs rs → rs.length = count

variable [EquivBEq α]

/-- Equal elements are in one class. -/
def classes (α : Type) [BEq α] [EquivBEq α] : Setoid α where
  r a b := (a == b) = true
  iseqv := ⟨fun _ => BEq.rfl, BEq.symm, BEq.trans⟩

lemma mem_classes_iff {x : α} :
    Quotient.mk (classes α) x ∈ xs.map (Quotient.mk (classes α)) ↔ xs.contains x = true := by
  rw [List.mem_map, List.contains_iff_exists_mem_beq]
  refine exists_congr fun y => and_congr_right fun _ => ?_
  rw [Quotient.eq, BEq.comm]
  rfl

lemma OneOfEach.nodup_classes (h : OneOfEach xs rs) :
    (rs.map (Quotient.mk (classes α))).Nodup := by
  rw [List.Nodup, List.pairwise_map]
  refine h.apart.imp fun hapart hclass => ?_
  exact Bool.false_ne_true (hapart.symm.trans (Quotient.exact hclass))

/-- Two choices of one of each have the same classes. -/
lemma OneOfEach.length_eq (hr : OneOfEach xs rs) (hs : OneOfEach xs ss) :
    rs.length = ss.length := by
  have hperm : (rs.map (Quotient.mk (classes α))).Perm (ss.map (Quotient.mk (classes α))) := by
    refine (List.perm_ext_iff_of_nodup hr.nodup_classes hs.nodup_classes).2 fun c => ?_
    obtain ⟨x, rfl⟩ := Quotient.exists_rep c
    rw [mem_classes_iff, mem_classes_iff, hr.same, hs.same]
  simpa using hperm.length_eq

lemma exists_sublist_oneOfEach (xs : List α) : ∃ rs, rs.Sublist xs ∧ OneOfEach xs rs := by
  refine ⟨xs.pwFilter fun r s => (r == s) = false, List.pwFilter_sublist xs,
    List.pairwise_pwFilter xs, fun x => ?_⟩
  -- what differs from all that are kept differs from all
  have hkept := List.forall_mem_pwFilter (R := fun r s : α => (r == s) = false)
    (fun {x y z} hxz => by
      by_contra hequal
      simp only [not_or, Bool.not_eq_false] at hequal
      exact Bool.false_ne_true (hxz.symm.trans (BEq.trans hequal.1 hequal.2))) x xs
  rw [Bool.eq_iff_iff, List.contains_iff_exists_mem_beq, List.contains_iff_exists_mem_beq]
  simpa using not_congr hkept

variable [Hashable α] [LawfulHashable α]

lemma oneOfEach_toList (xs : List α) : OneOfEach xs (Std.HashSet.ofList xs).toList := by
  refine ⟨?_, fun x => ?_⟩
  · exact Std.HashSet.distinct_toList
  · rw [Std.HashSet.contains_toList, Std.HashSet.contains_ofList]

theorem hasDistinct_size (xs : List α) : HasDistinct xs (Std.HashSet.ofList xs).size := by
  refine ⟨exists_sublist_oneOfEach xs, fun rs hrs => ?_⟩
  rw [← Std.HashSet.length_toList]
  exact hrs.length_eq (oneOfEach_toList xs)

end

/-- Equality is an equivalence that hashes respect. For tokens it is blind to their places, tells
an operator that groups to the right from a plain one, and holds of those that can be read and are
written alike; for expressions it goes position by position, and so do hashes. So the distinct
elements of a list have a number, and a hash table counts it. -/
theorem lawful_equality :
    (EquivBEq Token ∧ LawfulHashable Token ∧ EquivBEq Expression ∧ LawfulHashable Expression) ∧
      (∀ a b : Token, ((a == b) = true ↔ a.shape.Same b.shape) ∧ (a != b) = !(a == b)) ∧
      (∀ (s t : Shape) (i j i' j' : ℤ),
        (Token.mk s i == Token.mk t j) = (Token.mk s i' == Token.mk t j')) ∧
      (∀ (v w : UInt64) (i j : ℤ), exactOfBits v.toNat = .notNumber →
        exactOfBits w.toNat = .notNumber →
        (Token.operand (.ofBits v) i == Token.operand (.ofBits w) j) = true) ∧
      (∀ (op op' : Operator) (i j : ℤ),
        (Token.rightOperator op i == Token.operator op' j) = false) ∧
      (∀ a b : Token, a.Readable → b.Readable → a.render = b.render → (a == b) = true) ∧
      (∀ a b : Expression,
        ((a == b) = true ↔ List.Forall₂ (fun t u => (t == u) = true) a.tokens b.tokens) ∧
        (a != b) = !(a == b) ∧ (a.tokens.map hash = b.tokens.map hash → hash a = hash b)) ∧
      (∀ ts : List Token, HasDistinct ts (Std.HashSet.ofList ts).size) ∧
      ∀ es : List Expression, HasDistinct es (Std.HashSet.ofList es).size := by
  refine ⟨⟨inferInstance, inferInstance, inferInstance, inferInstance⟩, ?_, ?_, ?_, ?_, ?_, ?_,
    hasDistinct_size, hasDistinct_size⟩
  · exact fun a b => ⟨Token.beq_iff_same, rfl⟩
  · intro s t i j i' j'
    rw [Bool.eq_iff_iff, Token.beq_iff, Token.beq_iff]
  · intro v w i j hv hw
    rw [ofBits_of_notNumber hv, ofBits_of_notNumber hw]
    exact Token.beq_iff.2 rfl
  · intro op op' i j
    rw [← Bool.not_eq_true, Token.beq_iff_same]
    intro hsame
    cases hsame
  · intro a b ha hb hrender
    exact Token.beq_iff.2 (congrArg Shape.key (Token.shape_eq_of_render ha hb hrender))
  · exact fun a b => ⟨Expression.beq_iff_forall₂, rfl, Expression.hash_eq_of_hashes⟩

/-- Two patterns of bits that are not numbers are one element, and zeros of both signs are
another. -/
theorem lawful_equality_special :
    let first : Token := .operand (.ofBits 0xFFF0000000000001) 9
    let second : Token := .operand (.ofBits 0x7FF8000000000000) 13
    let right : Token := .rightOperator .exponentiation 17
    let plain : Token := .operator .exponentiation 19
    (first == second) = true ∧
      (Token.operand 100 3 == .operand (ofRatio false 300 3) 8) = true ∧
      hash (Expression.mk [.operand 0 0, plain]) = hash (Expression.mk [.operand (-0.0) 4, plain]) ∧
      (Std.HashSet.ofList
        [.operand 0 0, first, .operand (-0.0) 4, second, right, plain]).size = 4 := by
  intro first second right plain
  obtain ⟨-, -, -, hbits, -, hwritten, hposition, hcount, -⟩ := lawful_equality
  have hnumbers : (first == second) = true :=
    hbits 0xFFF0000000000001 0x7FF8000000000000 9 13 (by decide) (by decide)
  have hzeros : (Token.operand 0 0 == .operand (-0.0) 4) = true := by decide +kernel
  refine ⟨hnumbers, hwritten _ _ trivial trivial (by decide +kernel), (hposition _ _).2.2 rfl, ?_⟩
  refine ((hcount _).length_eq [.operand 0 0, first, right, plain] ⟨?_, fun x => ?_⟩).symm
  · decide +kernel
  · have hfirst : (x == first) = (x == second) := BEq.congr_right hnumbers
    have hzero : (x == .operand 0 0) = (x == .operand (-0.0) 4) := BEq.congr_right hzeros
    simp only [List.contains_cons, hfirst, hzero]
    cases x == second <;> cases x == .operand (-0.0) 4 <;> rfl

end PostfixCalculator
