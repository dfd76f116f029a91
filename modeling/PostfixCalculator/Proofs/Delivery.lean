import PostfixCalculator.Proofs.Conservation
import PostfixCalculator.Proofs.Partners
import PostfixCalculator.Proofs.Places

/-!
# What is delivered on the way to postfix order

Equal tokens cannot be told apart, so an order of tokens is one of their positions. Conversion
carries the positions along, as it does with offsets. If the brackets balance, all other
tokens are delivered once: an operand before everything behind it, and a group before
everything behind its closing bracket. Otherwise the delivery ends at the first closing
bracket without a partner, or it lacks operators that wait below the last opening bracket
without one.
-/
namespace PostfixCalculator

open Infix

variable {tokens : List Token}

/-- The positions of tokens that are no brackets, in the order in which they leave. -/
structure Arranged (tokens : List Token) (order : List (Fin tokens.length)) : Prop where
  nodup : order.Nodup
  mem_iff : ∀ i, i ∈ order ↔ (tokens.get i).isBracket = false
  operand_first : ∀ i j, i < j → (tokens.get i).isOperand = true →
    (tokens.get j).isBracket = false → [i, j].Sublist order
  group_first : ∀ a b : ℕ, Partners tokens a b → ∀ i j : Fin tokens.length, a < i → i < b → b < j →
    (tokens.get i).isBracket = false → (tokens.get j).isBracket = false → [i, j].Sublist order

/-- Positions before a closing bracket that has no partner. -/
structure CutOff (tokens : List Token) (b : Fin tokens.length) (order : List (Fin tokens.length)) :
    Prop where
  lone : FirstLoneClosing tokens b
  nodup : order.Nodup
  mem_iff : ∀ i, i ∈ order ↔ i < b ∧ (tokens.get i).isBracket = false

/-- Positions around an opening bracket that has no partner, while all closing ones have. -/
structure LeftOver (tokens : List Token) (a : Fin tokens.length) (order : List (Fin tokens.length)) :
    Prop where
  lone : LastLoneOpening tokens a
  closed : ∀ b : Fin tokens.length, (tokens.get b).shape = .closing → ∃ a, Partners tokens a b
  nodup : order.Nodup
  unbracketed : ∀ i ∈ order, (tokens.get i).isBracket = false
  missing : ∀ i, (tokens.get i).isBracket = false → i ∉ order →
    (tokens.get i).isOperator = true ∧ i < a

namespace Infix

variable {before inner after sent stack out : List Token} {bracket opened closed token other : Token}

/-- What was sent on early comes before everything that was read later. -/
lemma early_first (hnodup : (before ++ after).Nodup)
    (hconvert : convert none [] (before ++ after) = Run.ofList out)
    (hfeed : feed [] before = (sent, .ok stack)) (htoken : token ∈ sent) (hother : other ∈ after)
    (hbracket : other.isBracket = false) : [token, other].Sublist out := by
  have hmem : other ∈ out := (convert_perm hconvert).mem_iff.2
    (mem_unbracketed.2 ⟨List.mem_append_right _ hother, hbracket⟩)
  have hlate : other ∉ sent := by
    intro hsent
    have hbefore := (mem_of_feed hfeed (List.mem_append_left _ hsent)).resolve_left
      List.not_mem_nil
    exact (List.nodup_append.1 hnodup).2.2 other hbefore other hother rfl
  rw [convert_append, hfeed] at hconvert
  have hout : sent ++ (convert none stack after).items = out := congrArg Run.items hconvert
  rw [← hout] at hmem ⊢
  have hrest := (List.mem_append.1 hmem).resolve_left hlate
  exact (List.singleton_sublist.2 htoken).append (List.singleton_sublist.2 hrest)

/-- An operand does not wait. -/
lemma operand_sent (hfeed : feed [] before = (sent, .ok stack)) (htoken : token ∈ before)
    (hoperand : token.isOperand = true) : token ∈ sent := by
  obtain ⟨-, hwaits⟩ := feed_waits (by simp) hfeed
  have hshape : token.isBracket = false ∧ ¬ Waits token := by
    unfold Token.isOperand at hoperand
    unfold Token.isBracket Waits Token.isOperator Token.isOpening Token.isClosing
    cases hshape : token.shape <;> simp_all
  have hmem := (feed_perm hfeed).mem_iff.2 (mem_unbracketed.2 ⟨htoken, hshape.1⟩)
  rcases List.mem_append.1 (mem_unbracketed.1 hmem).1 with hsent | hstack
  · exact hsent
  · exact absurd (hwaits token hstack) hshape.2

/-- A closing bracket leaves nothing of its group behind. -/
lemma group_sent (hbefore : Covered before) (hshaped : Shaped (before ++ opened :: (inner ++ [closed])))
    (hopened : opened.shape = .opening) (hclosed : closed.shape = .closing)
    (hinner : Balanced inner) (htoken : token ∈ inner) (hbracket : token.isBracket = false) :
    ∃ sent stack, feed [] (before ++ opened :: (inner ++ [closed])) = (sent, .ok stack) ∧
      token ∈ sent := by
  have hshaped' : Shaped inner := fun other hother => hshaped other (by simp [hother])
  obtain ⟨sent, stack, hfeed⟩ := feed_of_covered hbefore hshaped.append_left
  obtain ⟨out, hout⟩ := convert_of_balanced hinner hshaped'
  have hgroup : feed stack (opened :: (inner ++ [closed])) = (out, .ok stack) := by
    obtain ⟨shape, i⟩ := opened
    obtain ⟨shape', j⟩ := closed
    obtain rfl : shape = .opening := hopened
    obtain rfl : shape' = .closing := hclosed
    exact feed_group hout i j stack
  refine ⟨sent ++ out, stack, ?_, List.mem_append_right _ ?_⟩
  · rw [feed_append hfeed, hgroup]
  · exact (convert_perm hout).mem_iff.2 (mem_unbracketed.2 ⟨htoken, hbracket⟩)

/-- At the last opening bracket without a partner the operators before it may be left over. -/
lemma lone_opening_perm (hfeed : feed [] before = (sent, .ok stack))
    (hbracket : bracket.shape = .opening) (hafter : convert none [] after = Run.ofList out) :
    (sent ++ out ++ unbracketed stack).Perm (unbracketed (before ++ bracket :: after)) := by
  obtain ⟨hsent, -⟩ := feed_waits (by simp) hfeed
  have hself : unbracketed sent = sent :=
    List.filter_eq_self.2 fun token htoken => by simpa using hsent token htoken
  have hbefore := feed_perm hfeed
  rw [unbracketed_append, hself, List.nil_append] at hbefore
  have hnone : unbracketed [bracket] = [] := by
    simp [unbracketed, Token.isBracket, Token.isOpening, hbracket]
  calc sent ++ out ++ unbracketed stack
      = sent ++ (out ++ unbracketed stack) := List.append_assoc ..
    List.Perm _ (sent ++ (unbracketed stack ++ out)) := List.perm_append_comm.append_left sent
    _ = sent ++ unbracketed stack ++ out := (List.append_assoc ..).symm
    List.Perm _ (unbracketed before ++ unbracketed after) := hbefore.append (convert_perm hafter)
    _ = unbracketed (before ++ bracket :: after) := by
      rw [← List.singleton_append, unbracketed_append, unbracketed_append, hnone, List.nil_append]

end Infix

section Labels

/-- The token with its position in place of its offset. -/
def label (tokens : List Token) (i : Fin tokens.length) : Token := ⟨(tokens.get i).shape, (i : ℕ)⟩

def labelled (tokens : List Token) : List Token := (List.finRange tokens.length).map (label tokens)

/-- The offset of the token at a position. -/
def offsetAt (tokens : List Token) (position : ℤ) : ℤ :=
  (tokens[position.toNat]?.map Token.offset).getD 0

lemma offsetAt_val (tokens : List Token) (i : Fin tokens.length) :
    offsetAt tokens (i : ℕ) = (tokens.get i).offset := by
  simp [offsetAt]

lemma relocate_label (tokens : List Token) (i : Fin tokens.length) :
    (label tokens i).relocate (offsetAt tokens) = tokens.get i := by
  rw [Token.relocate, label, offsetAt_val]

lemma map_relocate_labelled (tokens : List Token) :
    (labelled tokens).map (Token.relocate (offsetAt tokens)) = tokens := by
  rw [labelled, List.map_map]
  exact (List.map_congr_left fun i _ => relocate_label tokens i).trans tokens.map_get_finRange

lemma label_injective (tokens : List Token) : Function.Injective (label tokens) := by
  intro i j h
  have hoffset := congrArg Token.offset h
  exact Fin.ext (Int.ofNat_inj.1 hoffset)

lemma nodup_labelled (tokens : List Token) : (labelled tokens).Nodup :=
  (List.nodup_finRange _).map (label_injective tokens)

lemma getElem?_labelled {j : ℕ} {i : Fin tokens.length} :
    (labelled tokens)[j]? = some (label tokens i) ↔ j = i := by
  constructor
  · intro h
    obtain ⟨hlt, hget⟩ := List.getElem?_eq_some_iff.1 h
    simp only [labelled, List.getElem_map, List.getElem_finRange] at hget
    exact congrArg Fin.val (label_injective tokens hget)
  · rintro rfl
    simp [labelled]

lemma label_mem (i : Fin tokens.length) : label tokens i ∈ labelled tokens :=
  List.mem_of_getElem? (getElem?_labelled.2 rfl)

lemma label_mem_take {i : Fin tokens.length} {k : ℕ} :
    label tokens i ∈ (labelled tokens).take k ↔ i < k := by
  simp [List.mem_iff_getElem?, List.getElem?_take, getElem?_labelled]

lemma label_mem_drop {i : Fin tokens.length} {k : ℕ} :
    label tokens i ∈ (labelled tokens).drop k ↔ k ≤ i := by
  simp only [List.mem_iff_getElem?, List.getElem?_drop, getElem?_labelled]
  exact ⟨fun ⟨j, hj⟩ => by omega, fun h => ⟨i - k, by omega⟩⟩

lemma split_labelled (i : Fin tokens.length) :
    labelled tokens =
      (labelled tokens).take i ++ label tokens i :: (labelled tokens).drop (i + 1) := by
  obtain ⟨hlt, hget⟩ := List.getElem?_eq_some_iff.1 (getElem?_labelled.2 rfl)
  rw [← hget, ← List.drop_eq_getElem_cons, List.take_append_drop]

lemma map_shape_labelled (tokens : List Token) :
    (labelled tokens).map Token.shape = tokens.map Token.shape := by
  conv_rhs => rw [← map_relocate_labelled tokens, List.map_map]
  rfl

lemma covered_take_labelled (h : Covered tokens) (k : ℕ) : Covered ((labelled tokens).take k) :=
  ((covered_congr (map_shape_labelled tokens)).2 h).mono (List.take_prefix k _)

lemma balanced_take_labelled {k : ℕ} :
    Balanced ((labelled tokens).take k) ↔ Balanced (tokens.take k) :=
  balanced_congr (by rw [List.map_take, map_shape_labelled, List.map_take])

lemma balanced_drop_labelled {k : ℕ} :
    Balanced ((labelled tokens).drop k) ↔ Balanced (tokens.drop k) :=
  balanced_congr (by rw [List.map_drop, map_shape_labelled, List.map_drop])

lemma shaped_labelled (h : Shaped tokens) : Shaped (labelled tokens) := by
  intro token htoken
  obtain ⟨i, -, rfl⟩ := List.mem_map.1 htoken
  exact h (tokens.get i) (List.get_mem tokens i)

/-- What is delivered are tokens at some positions. -/
lemma exists_order {items : List Token} (h : ∀ token ∈ items, token ∈ labelled tokens) :
    ∃ order : List (Fin tokens.length), items = order.map (label tokens) := by
  have hrange : ∀ token ∈ items, token ∈ Set.range (label tokens) := by
    intro token htoken
    obtain ⟨i, -, hi⟩ := List.mem_map.1 (h token htoken)
    exact ⟨i, hi⟩
  obtain ⟨order, horder⟩ := (Set.range_list_map (label tokens)).ge hrange
  exact ⟨order, horder.symm⟩

lemma toPostfix_labelled {order : List (Fin tokens.length)} {fault : Option Fault}
    (h : convert none [] (labelled tokens) = ⟨order.map (label tokens), fault⟩) :
    toPostfix (Run.ofList tokens) =
      ⟨order.map tokens.get, fault.map (Fault.relocate (offsetAt tokens))⟩ := by
  have hconvert := convert_relocate (offsetAt tokens) none [] (labelled tokens)
  rw [map_relocate_labelled, h, Run.relocate, List.map_map] at hconvert
  have horder : order.map (Token.relocate (offsetAt tokens) ∘ label tokens) = order.map tokens.get :=
    List.map_congr_left fun i _ => relocate_label tokens i
  rw [horder] at hconvert
  exact hconvert

lemma sublist_of_labels {order : List (Fin tokens.length)} {i j : Fin tokens.length}
    (h : [label tokens i, label tokens j].Sublist (order.map (label tokens))) :
    [i, j].Sublist order := by
  obtain ⟨pair, hpair, heq⟩ := List.sublist_map_iff.1 h
  rwa [(label_injective tokens).list_map (show [i, j].map (label tokens) = _ from heq)]

variable {order : List (Fin tokens.length)} {part : List Token} {i j : Fin tokens.length}

lemma mem_order_iff (h : (order.map (label tokens)).Perm (unbracketed part)) :
    i ∈ order ↔ label tokens i ∈ part ∧ (tokens.get i).isBracket = false := by
  rw [← List.mem_map_of_injective (label_injective tokens), h.mem_iff, mem_unbracketed]
  rfl

lemma nodup_order (h : (order.map (label tokens)).Perm (unbracketed part))
    (hpart : part.Sublist (labelled tokens)) : order.Nodup :=
  (h.nodup_iff.2 (((nodup_labelled tokens).sublist hpart).filter _)).of_map

/-- What was sent on by some place comes before everything behind that place. -/
lemma sent_first {k : ℕ} {sent stack : List Token}
    (hrun : convert none [] (labelled tokens) = Run.ofList (order.map (label tokens)))
    (hfeed : feed [] ((labelled tokens).take k) = (sent, .ok stack)) (hi : label tokens i ∈ sent)
    (hk : k ≤ j) (hj : (tokens.get j).isBracket = false) : [i, j].Sublist order := by
  have hsplit := List.take_append_drop k (labelled tokens)
  have hnodup := nodup_labelled tokens
  rw [← hsplit] at hnodup hrun
  exact sublist_of_labels (early_first hnodup hrun hfeed hi (label_mem_drop.2 hk) hj)

/-- By the place of a closing bracket all of its group was sent on. -/
lemma label_sent_of_partners {a b : ℕ} (h : Balanced tokens) (hshaped : Shaped tokens)
    (hpartners : Partners tokens a b) (hai : a < i) (hib : i < b)
    (hi : (tokens.get i).isBracket = false) :
    ∃ sent stack, feed [] ((labelled tokens).take (b + 1)) = (sent, .ok stack) ∧
      label tokens i ∈ sent := by
  obtain ⟨opened, inner, closed, hopened, hclosed, hinner, hinside, hgroup⟩ :=
    (hpartners.congr (map_shape_labelled tokens).symm).take
  have hmem : label tokens i ∈ inner := by
    have htake := label_mem_take.2 hib
    rw [hinside] at htake
    refine (List.mem_append.1 htake).resolve_left fun hearlier => ?_
    have hle := label_mem_take.1 hearlier
    omega
  have hlabels := (shaped_labelled hshaped).take (b + 1)
  rw [hgroup] at hlabels ⊢
  exact group_sent (covered_take_labelled h.1 a) hlabels hopened hclosed hinner hmem hi

end Labels

/-- If the brackets balance, everything else is delivered. -/
theorem arranged_of_balanced (h : Balanced tokens) (hshaped : Shaped tokens) :
    ∃ order : List (Fin tokens.length),
      toPostfix (Run.ofList tokens) = Run.ofList (order.map tokens.get) ∧ Arranged tokens order := by
  have hlabels := shaped_labelled hshaped
  obtain ⟨out, hout⟩ :=
    convert_of_balanced ((balanced_congr (map_shape_labelled tokens)).2 h) hlabels
  have hperm := convert_perm hout
  obtain ⟨order, rfl⟩ := exists_order fun token htoken =>
    (mem_unbracketed.1 (hperm.mem_iff.1 htoken)).1
  refine ⟨order, toPostfix_labelled hout, nodup_order hperm (List.Sublist.refl _), fun i => ?_,
    fun i j hij hi hj => ?_, fun a b hpartners i j hai hib hbj hi hj => ?_⟩
  · rw [mem_order_iff hperm]
    exact and_iff_right (label_mem i)
  · obtain ⟨sent, stack, hfeed⟩ :=
      feed_of_covered (covered_take_labelled h.1 (i + 1)) (hlabels.take (i + 1))
    have hsent := operand_sent hfeed (label_mem_take.2 (Nat.lt_succ_self i)) hi
    exact sent_first hout hfeed hsent hij hj
  · obtain ⟨sent, stack, hfeed, hsent⟩ := label_sent_of_partners h hshaped hpartners hai hib hi
    exact sent_first hout hfeed hsent hbj hj

/-- A closing bracket without a partner is met when all before it has been delivered. -/
theorem delivered_before_closing (h : ¬ Covered tokens) (hshaped : Shaped tokens) :
    ∃ (b : Fin tokens.length) (order : List (Fin tokens.length)), CutOff tokens b order ∧
      toPostfix (Run.ofList tokens) = ⟨order.map tokens.get,
        some (.expression .unmatchedClosing (some (tokens.get b).offset))⟩ := by
  obtain ⟨b, hb, hbalanced⟩ := exists_firstLoneClosing h
  have hshape : (label tokens b).shape = .closing := hb.closing
  obtain ⟨out, hout, hconvert⟩ := convert_lone_closing (balanced_take_labelled.2 hbalanced) hshape
    ((shaped_labelled hshaped).take b)
  have hperm := convert_perm hout
  obtain ⟨order, rfl⟩ := exists_order fun token htoken =>
    List.mem_of_mem_take (mem_unbracketed.1 (hperm.mem_iff.1 htoken)).1
  have hrun := hconvert none ((labelled tokens).drop (b + 1))
  rw [← split_labelled] at hrun
  refine ⟨b, order, ⟨hb, nodup_order hperm (List.take_sublist b _), fun i => ?_⟩, ?_⟩
  · rw [mem_order_iff hperm, label_mem_take]
    rfl
  · rw [toPostfix_labelled hrun, ← offsetAt_val]
    rfl

/-- An opening bracket without a partner is left over with operators before it. -/
theorem delivered_around_opening (h : Covered tokens) (hopen : closings tokens < openings tokens)
    (hshaped : Shaped tokens) :
    ∃ (a : Fin tokens.length) (order : List (Fin tokens.length)), LeftOver tokens a order ∧
      toPostfix (Run.ofList tokens) = ⟨order.map tokens.get,
        some (.expression .unmatchedOpening (some (tokens.get a).offset))⟩ := by
  obtain ⟨a, ha, hbalanced⟩ := exists_lastLoneOpening hopen
  have hshape : (label tokens a).shape = .opening := ha.opening
  have hlabels := shaped_labelled hshaped
  rw [split_labelled a] at hlabels
  obtain ⟨sent, stack, out, hfeed, hout, hrun⟩ := convert_lone_opening
    (covered_take_labelled h a) hshape (balanced_drop_labelled.2 hbalanced) hlabels
  have hperm := lone_opening_perm hfeed hshape hout
  rw [← split_labelled] at hrun hperm
  have hmem : ∀ token ∈ sent ++ out, token ∈ unbracketed (labelled tokens) := fun token htoken =>
    hperm.mem_iff.1 (List.mem_append_left _ htoken)
  obtain ⟨order, horder⟩ := exists_order fun token htoken =>
    (mem_unbracketed.1 (hmem token htoken)).1
  rw [horder] at hrun hperm hmem
  have hnodup := hperm.nodup_iff.2 ((nodup_labelled tokens).filter _)
  refine ⟨a, order, ⟨ha, h.exists_partner, (List.nodup_append.1 hnodup).1.of_map, fun i hi => ?_,
    fun i hi hmissing => ?_⟩, ?_⟩
  · exact (mem_unbracketed.1 (hmem _ (List.mem_map_of_mem hi))).2
  · rw [← List.mem_map_of_injective (label_injective tokens)] at hmissing
    have hall := hperm.mem_iff.2 (mem_unbracketed.2 ⟨label_mem i, hi⟩)
    have hstack := (mem_unbracketed.1 ((List.mem_append.1 hall).resolve_left hmissing)).1
    have hbefore := (mem_of_feed hfeed (List.mem_append_right _ hstack)).resolve_left
      List.not_mem_nil
    have hwaits := (feed_waits (by simp) hfeed).2 _ hstack
    exact ⟨isOperator_of_waits hwaits hi, label_mem_take.1 hbefore⟩
  · rw [toPostfix_labelled hrun, ← offsetAt_val]
    rfl

/-- Conversion comes to its end exactly when the brackets balance. Otherwise it reports the first
closing bracket without a partner, or else the last opening one. -/
theorem toPostfix_delivers (h : Shaped tokens) :
    ((toPostfix (Run.ofList tokens)).fault = none ↔ Balanced tokens) ∧
    (Balanced tokens → ∃ order : List (Fin tokens.length),
      toPostfix (Run.ofList tokens) = Run.ofList (order.map tokens.get) ∧ Arranged tokens order) ∧
    (¬ Balanced tokens → ∃ (i : Fin tokens.length) (order : List (Fin tokens.length)),
      CutOff tokens i order ∧ toPostfix (Run.ofList tokens) = ⟨order.map tokens.get,
          some (.expression .unmatchedClosing (some (tokens.get i).offset))⟩ ∨
      LeftOver tokens i order ∧ toPostfix (Run.ofList tokens) = ⟨order.map tokens.get,
          some (.expression .unmatchedOpening (some (tokens.get i).offset))⟩) := by
  by_cases hbalanced : Balanced tokens
  · obtain ⟨order, hrun, harranged⟩ := arranged_of_balanced hbalanced h
    exact ⟨iff_of_true (by rw [hrun]; rfl) hbalanced, fun _ => ⟨order, hrun, harranged⟩,
      fun hnot => absurd hbalanced hnot⟩
  · by_cases hcovered : Covered tokens
    · have hlt : closings tokens < openings tokens :=
        lt_of_le_of_ne (hcovered tokens List.prefix_rfl)
          fun heq => hbalanced ⟨hcovered, heq.symm⟩
      obtain ⟨a, order, ha, hrun⟩ := delivered_around_opening hcovered hlt h
      exact ⟨iff_of_false (by simp [hrun]) hbalanced, fun hyes => absurd hyes hbalanced,
        fun _ => ⟨a, order, .inr ⟨ha, hrun⟩⟩⟩
    · obtain ⟨b, order, hb, hrun⟩ := delivered_before_closing hcovered h
      exact ⟨iff_of_false (by simp [hrun]) hbalanced, fun hyes => absurd hyes hbalanced,
        fun _ => ⟨b, order, .inl ⟨hb, hrun⟩⟩⟩

theorem toPostfix_delivers_left_over :
    toPostfix (Run.ofList [.opening 4, .operand 1 5, .operator .addition 6, .opening 7,
        .operand 2 8]) =
      ⟨[.operand 1 5, .operand 2 8], some (.expression .unmatchedOpening (some 7))⟩ ∧
    ∃ order : List (Fin 5), order.length = 2 ∧
      LeftOver [.opening 4, .operand 1 5, .operator .addition 6, .opening 7, .operand 2 8] 3
        order := by
  have hrun : toPostfix (Run.ofList [.opening 4, .operand 1 5, .operator .addition 6, .opening 7,
      .operand 2 8]) =
      ⟨[.operand 1 5, .operand 2 8], some (.expression .unmatchedOpening (some 7))⟩ := rfl
  have hshaped : Shaped [.opening 4, .operand 1 5, .operator .addition 6, .opening 7,
      .operand 2 8] := by
    simp [Shaped, Token.opening, Token.operand, Token.operator]
  obtain ⟨-, -, hunbalanced⟩ := toPostfix_delivers hshaped
  obtain ⟨i, order, ⟨-, hcut⟩ | ⟨hleft, hdelivered⟩⟩ := hunbalanced (by decide)
  · exact absurd (congrArg Run.fault (hrun.symm.trans hcut)) (by simp)
  · have hsame := hrun.symm.trans hdelivered
    have hoffset : (7 : ℤ) = (List.get [Token.opening 4, .operand 1 5, .operator .addition 6,
        .opening 7, .operand 2 8] i).offset := by
      simpa using congrArg Run.fault hsame
    obtain rfl : i = 3 := by
      revert hoffset
      generalize i = j
      revert j
      decide
    have hlength := congrArg (fun run => run.items.length) hsame
    exact ⟨hrun, order, by simpa using hlength.symm, hleft⟩

end PostfixCalculator
