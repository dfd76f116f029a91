import PostfixCalculator.Proofs.Calculation

/-!
# How operators group

The tokens of an infix phrase can be those of several trees. In one of them, and only in one,
every operator sends on the one below it on the left and is not sent on by the one below it on
the right. The operator stack sends the tokens on in the postfix order of that tree.
-/
namespace PostfixCalculator

open Infix

/-- A tree of an infix expression, with the offsets of its brackets. -/
inductive Phrase where
  | operand (value : Float) (offset : ℤ)
  | bracketed (opened : ℤ) (inner : Phrase) (closed : ℤ)
  | joined (left : Phrase) (o : Connective) (right : Phrase)

variable {o x y : Connective} {p q left right left' right' : Phrase} {a b m stack : List Token}

namespace Connective

/-- The connective does not join `waiting` on the stack before that is sent on. -/
def Releases (o waiting : Connective) : Prop := shouldPop o.token waiting.token = true

/-- On equal precedence a connective that groups to the left releases what waits. -/
lemma releases_iff : o.Releases x ↔
    o.op.precedence < x.op.precedence + if o.grouping = .left then 1 else 0 := by
  obtain ⟨op, grouping, offset⟩ := o
  cases grouping <;> simp [Releases, shouldPop, yields, token]

lemma Releases.trans (h : o.Releases x) (hx : x.Releases y) : o.Releases y := by
  rw [releases_iff] at *
  split_ifs at * <;> omega

/-- What does not release `x` binds at least as tightly, so all that releases `x` releases it. -/
lemma Releases.of_not_releases (h : o.Releases x) (hy : ¬ y.Releases x) : o.Releases y := by
  rw [releases_iff] at *
  split_ifs at * <;> omega

lemma balanced_token (o : Connective) : Balanced [o.token] :=
  balanced_singleton (by simp [token]) (by simp [token])

end Connective

namespace Phrase

def tokens : Phrase → List Token
  | operand value offset => [⟨.operand value, offset⟩]
  | bracketed opened inner closed => ⟨.opening, opened⟩ :: (inner.tokens ++ [⟨.closing, closed⟩])
  | joined left o right => left.tokens ++ o.token :: right.tokens

/-- The tree without its brackets. -/
def calculation : Phrase → Calculation
  | operand value offset => .operand value offset
  | bracketed _ inner _ => inner.calculation
  | joined left o right => .operation o left.calculation right.calculation

/-- The connective at the root, if there are no brackets around it. -/
def root? : Phrase → Option Connective
  | joined _ o _ => some o
  | _ => none

/-- All connectives that have no brackets around them. -/
def outer : Phrase → List Connective
  | joined left o right => left.outer ++ o :: right.outer
  | _ => []

/-- Every connective has its neighbours in the tree where the operator stack puts them. -/
def Settled : Phrase → Prop
  | operand .. => True
  | bracketed _ inner _ => inner.Settled
  | joined left o right => left.Settled ∧ right.Settled ∧
      (∀ x ∈ left.root?, o.Releases x) ∧ ∀ x ∈ right.root?, ¬ x.Releases o

lemma outer_eq_nil (h : p.root? = none) : p.outer = [] := by
  cases p with
  | joined left o right => cases h
  | _ => rfl

/-- What sends on the root of a tree sends on all that no brackets hide. -/
lemma Settled.releases_outer (h : p.Settled) (hroot : ∀ x ∈ p.root?, o.Releases x) :
    ∀ x ∈ p.outer, o.Releases x := by
  induction p with
  | operand value offset => simp [outer]
  | bracketed opened inner closed ih => simp [outer]
  | joined left x right ihl ihr =>
    obtain ⟨hleft, hright, hl, hr⟩ := h
    have hx : o.Releases x := hroot x rfl
    intro y hy
    rcases List.mem_append.1 hy with hy | hy
    · exact ihl hleft (fun z hz => hx.trans (hl z hz)) y hy
    · rcases List.mem_cons.1 hy with rfl | hy
      · exact hx
      · exact ihr hright (fun z hz => hx.of_not_releases (hr z hz)) y hy

/-- What is not sent on by the root of a tree is not sent on by anything in it. -/
lemma Settled.not_releases_outer (h : p.Settled) (hroot : ∀ x ∈ p.root?, ¬ x.Releases o) :
    ∀ x ∈ p.outer, ¬ x.Releases o := by
  induction p with
  | operand value offset => simp [outer]
  | bracketed opened inner closed ih => simp [outer]
  | joined left x right ihl ihr =>
    obtain ⟨hleft, hright, hl, hr⟩ := h
    have hx : ¬ x.Releases o := hroot x rfl
    intro y hy
    rcases List.mem_append.1 hy with hy | hy
    · exact ihl hleft (fun z hz hzo => hx ((hl z hz).trans hzo)) y hy
    · rcases List.mem_cons.1 hy with rfl | hy
      · exact hx
      · exact ihr hright (fun z hz hzo => hr z hz (hzo.of_not_releases hx)) y hy

/-- A settled tree takes one more atom at its end. -/
lemma exists_settled_atom (hp : p.Settled) (o : Connective) (hq : q.Settled)
    (hatom : q.root? = none) :
    ∃ r : Phrase, r.Settled ∧ r.tokens = p.tokens ++ o.token :: q.tokens ∧
      ∀ x ∈ r.root?, x = o ∨ x ∈ p.root? := by
  -- the connective goes down on the right, below all that it does not release
  induction p with
  | operand value offset =>
    exact ⟨.joined (.operand value offset) o q, ⟨hp, hq, by simp [root?], by simp [hatom]⟩, rfl,
      by simp [root?]⟩
  | bracketed opened inner closed ih =>
    exact ⟨.joined (.bracketed opened inner closed) o q, ⟨hp, hq, by simp [root?], by simp [hatom]⟩,
      rfl, by simp [root?]⟩
  | joined left x right ihl ihr =>
    by_cases hx : o.Releases x
    · exact ⟨.joined (.joined left x right) o q, ⟨hp, hq, by simp [root?, hx], by simp [hatom]⟩, rfl,
        by simp [root?]⟩
    · obtain ⟨hleft, hright, hl, hr⟩ := hp
      obtain ⟨r, hsettled, htokens, hroot⟩ := ihr hright
      refine ⟨.joined left x r, ⟨hleft, hsettled, hl, ?_⟩, by simp [tokens, htokens], by simp [root?]⟩
      intro z hz
      rcases hroot z hz with rfl | hz
      · exact hx
      · exact hr z hz

/-- Every tree can be settled, alone and at the end of a settled one. -/
lemma exists_settled_both (p : Phrase) :
    (∃ q : Phrase, q.Settled ∧ q.tokens = p.tokens) ∧
      ∀ (q : Phrase) (o : Connective), q.Settled →
        ∃ r : Phrase, r.Settled ∧ r.tokens = q.tokens ++ o.token :: p.tokens := by
  induction p with
  | operand value offset =>
    refine ⟨⟨.operand value offset, trivial, rfl⟩, fun q o hq => ?_⟩
    obtain ⟨r, hr, htokens, -⟩ := exists_settled_atom (q := .operand value offset) hq o trivial rfl
    exact ⟨r, hr, htokens⟩
  | bracketed opened inner closed ih =>
    obtain ⟨⟨inner', hinner, htokens⟩, -⟩ := ih
    have hsame : (bracketed opened inner' closed).tokens = (bracketed opened inner closed).tokens := by
      rw [tokens, tokens, htokens]
    refine ⟨⟨.bracketed opened inner' closed, hinner, hsame⟩, fun q o hq => ?_⟩
    obtain ⟨r, hr, htokens', -⟩ :=
      exists_settled_atom (q := .bracketed opened inner' closed) hq o hinner rfl
    exact ⟨r, hr, by rw [htokens', hsame]⟩
  | joined left x right ihl ihr =>
    obtain ⟨⟨left', hleft, hltokens⟩, hlast⟩ := ihl
    constructor
    · obtain ⟨r, hr, htokens⟩ := ihr.2 left' x hleft
      exact ⟨r, hr, by rw [htokens, hltokens, tokens]⟩
    · intro q o hq
      obtain ⟨r, hr, htokens⟩ := hlast q o hq
      obtain ⟨r', hr', htokens'⟩ := ihr.2 r x hr
      exact ⟨r', hr', by simp [htokens', htokens, tokens]⟩

theorem exists_settled (p : Phrase) : ∃ q : Phrase, q.Settled ∧ q.tokens = p.tokens :=
  (exists_settled_both p).1

lemma balanced_tokens (p : Phrase) : Balanced p.tokens := by
  induction p with
  | operand value offset => exact balanced_singleton (by simp) (by simp)
  | bracketed opened inner closed ih => exact ih.enclosed rfl rfl
  | joined left o right ihl ihr =>
    exact ihl.append (o.balanced_token.append ihr)

/-- A connective that comes after tokens that balance has no brackets around it. -/
lemma mem_outer (h : p.tokens = a ++ o.token :: b) (ha : Balanced a) : o ∈ p.outer := by
  induction p generalizing a b with
  | operand value offset =>
    rcases a with _ | ⟨first, a⟩ <;> simp [tokens, Connective.token] at h
  | bracketed opened inner closed ih =>
    exfalso
    rcases a with _ | ⟨first, a⟩
    · simp [tokens, Connective.token] at h
    · obtain ⟨rfl, hinner⟩ := List.cons.inj h
      have hprefix : a <+: inner.tokens ++ [⟨.closing, closed⟩] := ⟨_, hinner.symm⟩
      rcases List.prefix_concat_iff.1 hprefix with rfl | hprefix
      · simp at hinner
      · -- the opening bracket is still open where the connective stands
        have hcovered := inner.balanced_tokens.1 a hprefix
        have hlevel := ha.2
        rw [← List.singleton_append, openings_append, closings_append, openings_singleton rfl,
          closings_singleton_of_ne (by simp)] at hlevel
        omega
  | joined left x right ihl ihr =>
    rw [outer, List.mem_append, List.mem_cons]
    rcases List.append_eq_append_iff.1 h with ⟨m, rfl, hright⟩ | ⟨m, hleft, hrest⟩
    · rcases m with _ | ⟨first, m⟩
      · exact .inr (.inl (Connective.token_injective (List.head_eq_of_cons_eq hright)).symm)
      · obtain ⟨rfl, htail⟩ := List.cons.inj hright
        have hm : Balanced m := x.balanced_token.of_append (left.balanced_tokens.of_append ha)
        exact .inr (.inr (ihr htail hm))
    · rcases m with _ | ⟨first, m⟩
      · exact .inr (.inl (Connective.token_injective (List.head_eq_of_cons_eq hrest)))
      · obtain ⟨rfl, -⟩ := List.cons.inj hrest
        exact .inl (ihl hleft ha)

/-- Two settled trees of the same tokens do not have their roots at different places: each
connective would have to be below the other one. -/
lemma Settled.not_apart (hp : (joined left o right).Settled) (hq : (joined left' x right').Settled)
    (hleft : left'.tokens = left.tokens ++ o.token :: m)
    (hright : right.tokens = m ++ x.token :: right'.tokens) : False := by
  obtain ⟨-, hrsettled, -, hroot⟩ := hp
  obtain ⟨hlsettled, -, hroot', -⟩ := hq
  have hm : Balanced m := by
    have hbalanced := left'.balanced_tokens
    rw [hleft] at hbalanced
    exact o.balanced_token.of_append (left.balanced_tokens.of_append hbalanced)
  have hreleases := hlsettled.releases_outer hroot' o (mem_outer hleft left.balanced_tokens)
  exact hrsettled.not_releases_outer hroot x (mem_outer hright hm) hreleases

theorem Settled.unique (hp : p.Settled) (hq : q.Settled) (h : p.tokens = q.tokens) : p = q := by
  have hatom : ∀ {p : Phrase} {left : Phrase} {o : Connective} {right : Phrase}, p.root? = none →
      p.tokens ≠ (joined left o right).tokens := by
    intro p left o right hroot htokens
    have hmem := mem_outer htokens left.balanced_tokens
    rw [outer_eq_nil hroot] at hmem
    exact List.not_mem_nil hmem
  induction p generalizing q with
  | operand value offset =>
    cases q with
    | operand value' offset' =>
      obtain ⟨⟨rfl⟩, rfl⟩ := Token.mk.inj (List.head_eq_of_cons_eq h)
      rfl
    | bracketed opened inner closed => simp [tokens] at h
    | joined left o right => exact absurd h (hatom rfl)
  | bracketed opened inner closed ih =>
    cases q with
    | operand value offset => simp [tokens] at h
    | bracketed opened' inner' closed' =>
      obtain ⟨hopened, hrest⟩ := List.cons.inj h
      obtain ⟨hinner, hclosed⟩ := List.append_inj' hrest rfl
      obtain ⟨-, rfl⟩ := Token.mk.inj hopened
      obtain ⟨-, rfl⟩ := Token.mk.inj (List.head_eq_of_cons_eq hclosed)
      rw [ih (q := inner') hp hq hinner]
    | joined left o right => exact absurd h (hatom rfl)
  | joined left o right ihl ihr =>
    cases q with
    | operand value offset => exact absurd h.symm (hatom rfl)
    | bracketed opened inner closed => exact absurd h.symm (hatom rfl)
    | joined left' x right' =>
      rcases List.append_eq_append_iff.1 h with ⟨m, hleft, hright⟩ | ⟨m, hleft, hright⟩
      · rcases m with _ | ⟨first, m⟩
        · obtain ⟨ho, htail⟩ := List.cons.inj hright
          rw [List.append_nil] at hleft
          rw [ihl hp.1 hq.1 hleft.symm, Connective.token_injective ho, ihr hp.2.1 hq.2.1 htail]
        · obtain ⟨rfl, htail⟩ := List.cons.inj hright
          exact (hp.not_apart hq hleft htail).elim
      · rcases m with _ | ⟨first, m⟩
        · obtain ⟨ho, htail⟩ := List.cons.inj hright
          rw [List.append_nil] at hleft
          rw [ihl hp.1 hq.1 hleft, Connective.token_injective ho, ihr hp.2.1 hq.2.1 htail.symm]
        · obtain ⟨rfl, htail⟩ := List.cons.inj hright
          exact (hq.not_apart hp hleft htail).elim

end Phrase

/-- A settled tree sends on its tokens in postfix order, but for the connectives that still
wait. What waited before stays below. -/
theorem Infix.feed_settled (h : p.Settled)
    (hstack : ∀ x ∈ p.outer, ∀ top ∈ stack.head?, shouldPop x.token top = false) :
    ∃ (sent : List Token) (waiting : List Connective),
      feed stack p.tokens = (sent, .ok (waiting.map Connective.token ++ stack)) ∧
        sent ++ waiting.map Connective.token = p.calculation.postOrder ∧
        ∀ x ∈ waiting, x ∈ p.outer := by
  induction p generalizing stack with
  | operand value offset => exact ⟨[⟨.operand value, offset⟩], [], rfl, rfl, by simp⟩
  | bracketed opened inner closed ih =>
    -- the opening bracket hides the stack
    have hempty : ∀ x ∈ inner.outer, ∀ top ∈ ([] : List Token).head?,
        shouldPop x.token top = false := by simp
    obtain ⟨sent, waiting, hfeed, hsent, -⟩ := ih h hempty
    rw [List.append_nil] at hfeed
    have hwaiting : ∀ token ∈ waiting.map Connective.token, token.isOpening = false := by
      simp [Connective.token, Token.isOpening]
    have hgroup := feed_group (convert_of_feed hfeed hwaiting) opened closed stack
    refine ⟨sent ++ waiting.map Connective.token, [], hgroup, ?_, by simp⟩
    rw [List.map_nil, List.append_nil, hsent, Phrase.calculation]
  | joined left o right ihl ihr =>
    obtain ⟨hleft, hright, hroot, hroot'⟩ := h
    have hleave := hleft.releases_outer hroot
    have hstay := hright.not_releases_outer hroot'
    obtain ⟨sent, waiting, hfeed, hsent, hwaiting⟩ :=
      ihl hleft fun x hx => hstack x (List.mem_append_left _ hx)
    have hnext : ∀ x ∈ right.outer, ∀ top ∈ (o.token :: stack).head?,
        shouldPop x.token top = false := by
      intro x hx top htop
      obtain rfl : o.token = top := by simpa using htop
      simpa [Connective.Releases] using hstay x hx
    obtain ⟨sent', waiting', hfeed', hsent', hwaiting'⟩ := ihr hright hnext
    have hstep : step (waiting.map Connective.token ++ stack) o.token =
        (waiting.map Connective.token, .ok (o.token :: stack)) := by
      refine step_of_moves (.operator rfl _ stack ?_ (hstack o (by simp [Phrase.outer])))
      intro top htop
      obtain ⟨x, hx, rfl⟩ := List.mem_map.1 htop
      exact hleave x (hwaiting x hx)
    refine ⟨sent ++ (waiting.map Connective.token ++ sent'), waiting' ++ [o], ?_, ?_, ?_⟩
    · rw [Phrase.tokens, feed_append hfeed, feed, hstep]
      simp [hfeed']
    · rw [Phrase.calculation, Calculation.postOrder, ← hsent, ← hsent']
      simp
    · intro x hx
      rcases List.mem_append.1 hx with hx | hx
      · exact List.mem_append_right _ (List.mem_cons_of_mem _ (hwaiting' x hx))
      · rw [List.mem_singleton.1 hx]
        exact List.mem_append_right _ List.mem_cons_self

theorem Infix.convert_settled (h : p.Settled) :
    convert none [] p.tokens = Run.ofList p.calculation.postOrder := by
  have hempty : ∀ x ∈ p.outer, ∀ top ∈ ([] : List Token).head?, shouldPop x.token top = false := by
    simp
  obtain ⟨sent, waiting, hfeed, hsent, -⟩ := feed_settled h hempty
  rw [List.append_nil] at hfeed
  rw [← hsent]
  exact convert_of_feed hfeed (by simp [Connective.token, Token.isOpening])

/-- The value of a phrase is that of its settled tree. -/
theorem evaluateRun_settled (arithmetic : Postfix.Arithmetic) (h : p.Settled) :
    evaluateRun arithmetic (Run.ofList p.tokens) = .ok (p.calculation.value arithmetic) := by
  rw [evaluateRun_ofList, Infix.convert_settled h]
  show Postfix.evaluateWith arithmetic (Run.ofList _) = _
  rw [Postfix.evaluateWith_eq_ok]
  exact Calculation.exec_postOrder arithmetic [] p.calculation

/-- Exactly one tree of a phrase is settled, and its postfix order is the result of
conversion. -/
theorem toPostfix_phrase (p : Phrase) :
    ∃ q : Phrase, q.tokens = p.tokens ∧ q.Settled ∧
      (∀ q' : Phrase, q'.tokens = p.tokens → q'.Settled → q' = q) ∧
      toPostfix (Run.ofList p.tokens) = Run.ofList q.calculation.postOrder := by
  obtain ⟨q, hq, htokens⟩ := p.exists_settled
  refine ⟨q, htokens, hq, fun q' htokens' hq' => hq'.unique hq (htokens'.trans htokens.symm), ?_⟩
  rw [← htokens]
  exact Infix.convert_settled hq

end PostfixCalculator
