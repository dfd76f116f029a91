import PostfixCalculator.Proofs.Brackets

/-!
# Partners of brackets

An opening and a closing bracket are partners if what stands between them balances. Tokens
balance exactly when every bracket has a partner. Otherwise there is a first closing bracket
without one, before which everything balances, or there is none, and everything balances
behind the last opening bracket without a partner.
-/
namespace PostfixCalculator

variable {tokens : List Token} {a b : ℕ}

/-- The brackets at two places, with tokens between them that balance. -/
def Partners (tokens : List Token) (a b : ℕ) : Prop :=
  ∃ before opened inner closed after, tokens = before ++ opened :: (inner ++ closed :: after) ∧
    opened.shape = .opening ∧ closed.shape = .closing ∧ Balanced inner ∧
    before.length = a ∧ before.length + 1 + inner.length = b

structure FirstLoneClosing (tokens : List Token) (b : Fin tokens.length) : Prop where
  closing : (tokens.get b).shape = .closing
  lone : ∀ a, ¬ Partners tokens a b
  first : ∀ c < b, (tokens.get c).shape = .closing → ∃ a, Partners tokens a c

structure LastLoneOpening (tokens : List Token) (a : Fin tokens.length) : Prop where
  opening : (tokens.get a).shape = .opening
  lone : ∀ b, ¬ Partners tokens a b
  last : ∀ d, a < d → (tokens.get d).shape = .opening → ∃ b, Partners tokens d b

lemma split_at (tokens : List Token) (i : Fin tokens.length) :
    tokens = tokens.take i ++ tokens.get i :: tokens.drop (i + 1) := by
  rw [List.get_eq_getElem, ← List.drop_eq_getElem_cons, List.take_append_drop]

lemma take_succ_at (tokens : List Token) (i : Fin tokens.length) :
    tokens.take (i + 1) = tokens.take i ++ [tokens.get i] := by
  rw [List.take_succ_eq_append_getElem i.isLt, List.get_eq_getElem]

lemma drop_succ_left (before : List Token) (token : Token) (after : List Token) :
    (before ++ token :: after).drop (before.length + 1) = after := by
  rw [← List.singleton_append, ← List.append_assoc]
  exact List.drop_left' (by simp)

/-- Only the shapes of tokens decide on partners. -/
lemma Partners.congr {tokens' : List Token} (h : tokens.map Token.shape = tokens'.map Token.shape)
    (hpartners : Partners tokens a b) : Partners tokens' a b := by
  obtain ⟨before, opened, inner, closed, after, rfl, hopened, hclosed, hinner, rfl, rfl⟩ :=
    hpartners
  simp only [List.map_append, List.map_cons] at h
  obtain ⟨before', rest, rfl, hbefore, hrest⟩ := List.map_eq_append_iff.1 h.symm
  obtain ⟨opened', rest, rfl, hopened', hrest⟩ := List.map_eq_cons_iff.1 hrest
  obtain ⟨inner', rest, rfl, hinner', hrest⟩ := List.map_eq_append_iff.1 hrest
  obtain ⟨closed', after', rfl, hclosed', -⟩ := List.map_eq_cons_iff.1 hrest
  have hlength : before'.length = before.length := by simpa using congrArg List.length hbefore
  have hlength' : inner'.length = inner.length := by simpa using congrArg List.length hinner'
  exact ⟨before', opened', inner', closed', after', rfl, hopened'.trans hopened,
    hclosed'.trans hclosed, (balanced_congr hinner').2 hinner, hlength, by rw [hlength, hlength']⟩

/-- What was read up to the closing one of two partners ends with their group. -/
lemma Partners.take (h : Partners tokens a b) :
    ∃ opened inner closed, opened.shape = .opening ∧ closed.shape = .closing ∧ Balanced inner ∧
      tokens.take b = tokens.take (a + 1) ++ inner ∧
      tokens.take (b + 1) = tokens.take a ++ opened :: (inner ++ [closed]) := by
  obtain ⟨before, opened, inner, closed, after, htokens, hopened, hclosed, hinner, rfl, rfl⟩ := h
  have htake : ∀ {first later : List Token} {k : ℕ}, tokens = first ++ later →
      first.length = k → tokens.take k = first := by
    rintro first later k hsplit hk
    rw [hsplit, List.take_left' hk]
  have hbefore : tokens.take before.length = before := htake htokens rfl
  have hopening : tokens.take (before.length + 1) = before ++ [opened] :=
    htake (by rw [htokens, List.append_assoc]; rfl) (by simp)
  refine ⟨opened, inner, closed, hopened, hclosed, hinner, ?_, ?_⟩
  · rw [hopening]
    exact htake (by simpa using htokens) (by simp; omega)
  · rw [hbefore]
    exact htake (by simpa using htokens) (by simp; omega)

/-- A closing bracket up to which tokens never close too much has a partner. -/
lemma exists_partner_before {c : Fin tokens.length} (hclosing : (tokens.get c).shape = .closing)
    (h : Covered (tokens.take (c + 1))) : ∃ a, Partners tokens a c := by
  rw [take_succ_at] at h
  obtain ⟨-, hlevel⟩ := covered_append_singleton.1 h
  rw [openings_append, closings_append, (counts_closing hclosing).1,
    (counts_closing hclosing).2] at hlevel
  obtain ⟨before, opened, inner, hbefore, hopened, hinner⟩ :=
    exists_unclosed (Nat.lt_of_succ_le hlevel)
  have hlength : before.length + 1 + inner.length = c := by
    have htake := congrArg List.length hbefore
    simp at htake
    omega
  refine ⟨before.length, before, opened, inner, tokens.get c, tokens.drop (c + 1), ?_, hopened,
    hclosing, hinner, rfl, hlength⟩
  rw [← List.cons_append, ← List.append_assoc, ← hbefore]
  exact split_at tokens c

/-- An opening bracket has a partner if the tokens behind an earlier place balance. -/
lemma exists_partner_behind {d : Fin tokens.length} {k : ℕ} (hk : k ≤ d)
    (hopening : (tokens.get d).shape = .opening) (h : Balanced (tokens.drop k)) :
    ∃ b, Partners tokens d b := by
  have hdrop : tokens.drop k =
      (tokens.take d).drop k ++ tokens.get d :: tokens.drop (d + 1) := by
    conv_lhs => rw [split_at tokens d]
    exact List.drop_append_of_le_length (by simp; omega)
  rw [hdrop] at h
  have hearlier := h.1 _ (List.prefix_append _ _)
  have hlevel := h.2
  rw [← List.singleton_append, openings_append, openings_append, closings_append, closings_append,
    (counts_opening hopening).1, (counts_opening hopening).2] at hlevel
  have hopen : ¬ Covered (tokens.drop (d + 1)) := by
    intro hcovered
    have hlater := hcovered _ List.prefix_rfl
    omega
  obtain ⟨inner, closed, after, hrest, hinner, hclosed⟩ := not_covered_iff.1 hopen
  refine ⟨_, tokens.take d, tokens.get d, inner, closed, after, ?_, hopening, hclosed, hinner,
    by simp, rfl⟩
  rw [← hrest]
  exact split_at tokens d

lemma lone_of_balanced_before (h : Balanced (tokens.take b)) (a : ℕ) : ¬ Partners tokens a b := by
  rintro ⟨before, opened, inner, closed, after, rfl, hopened, -, hinner, rfl, rfl⟩
  have htake : (before ++ opened :: (inner ++ closed :: after)).take
      (before.length + 1 + inner.length) = before ++ opened :: inner := by
    rw [← List.cons_append, ← List.append_assoc]
    exact List.take_left' (by simp; omega)
  rw [htake] at h
  have hearlier := h.1 before (List.prefix_append _ _)
  have hinside := hinner.2
  have hlevel := h.2
  rw [← List.singleton_append, openings_append, openings_append, closings_append, closings_append,
    (counts_opening hopened).1, (counts_opening hopened).2] at hlevel
  omega

lemma lone_of_balanced_behind (h : Balanced (tokens.drop (a + 1))) (b : ℕ) :
    ¬ Partners tokens a b := by
  rintro ⟨before, opened, inner, closed, after, rfl, -, hclosed, hinner, rfl, rfl⟩
  rw [drop_succ_left] at h
  exact not_covered_iff.2 ⟨inner, closed, after, rfl, hinner, hclosed⟩ h.1

theorem exists_firstLoneClosing (h : ¬ Covered tokens) :
    ∃ b : Fin tokens.length, FirstLoneClosing tokens b ∧ Balanced (tokens.take b) := by
  obtain ⟨before, bracket, after, rfl, hbefore, hbracket⟩ := not_covered_iff.1 h
  have hbalanced : Balanced ((before ++ bracket :: after).take before.length) := by
    rwa [List.take_left]
  refine ⟨⟨before.length, by simp⟩, ⟨by simpa using hbracket,
    lone_of_balanced_before hbalanced, fun c hc hclosing => ?_⟩, hbalanced⟩
  exact exists_partner_before hclosing (hbalanced.1.mono (List.take_prefix_take_left hc))

theorem exists_lastLoneOpening (h : closings tokens < openings tokens) :
    ∃ a : Fin tokens.length, LastLoneOpening tokens a ∧ Balanced (tokens.drop (a + 1)) := by
  obtain ⟨before, bracket, after, rfl, hbracket, hafter⟩ := exists_unclosed h
  have hbalanced : Balanced ((before ++ bracket :: after).drop (before.length + 1)) := by
    rwa [drop_succ_left]
  exact ⟨⟨before.length, by simp⟩, ⟨by simpa using hbracket, lone_of_balanced_behind hbalanced,
    fun d hd hopening => exists_partner_behind hd hopening hbalanced⟩, hbalanced⟩

lemma Covered.exists_partner (h : Covered tokens) (c : Fin tokens.length)
    (hclosing : (tokens.get c).shape = .closing) : ∃ a, Partners tokens a c :=
  exists_partner_before hclosing (h.mono (List.take_prefix (c + 1) tokens))

/-- Tokens balance exactly when every bracket has a partner. -/
theorem balanced_iff_partners :
    Balanced tokens ↔
      (∀ b : Fin tokens.length, (tokens.get b).shape = .closing → ∃ a, Partners tokens a b) ∧
        ∀ a : Fin tokens.length, (tokens.get a).shape = .opening → ∃ b, Partners tokens a b := by
  constructor
  · intro h
    exact ⟨h.1.exists_partner, fun a ha => exists_partner_behind (Nat.zero_le a) ha h⟩
  · rintro ⟨hclosings, hopenings⟩
    have hcovered : Covered tokens := by
      by_contra hnot
      obtain ⟨b, hb, -⟩ := exists_firstLoneClosing hnot
      obtain ⟨a, ha⟩ := hclosings b hb.closing
      exact hb.lone a ha
    refine ⟨hcovered, le_antisymm ?_ (hcovered tokens List.prefix_rfl)⟩
    by_contra hnot
    obtain ⟨a, ha, -⟩ := exists_lastLoneOpening (not_le.1 hnot)
    obtain ⟨b, hb⟩ := hopenings a ha.opening
    exact ha.lone b hb

end PostfixCalculator
