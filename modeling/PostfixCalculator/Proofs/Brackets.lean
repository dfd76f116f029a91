import PostfixCalculator.Proofs.Conversion

/-!
# Brackets in infix order

An opening bracket waits on the stack until its partner comes. So tokens are brought into
postfix order exactly when their brackets balance, and otherwise the fault speaks of a
bracket without a partner.
-/
namespace PostfixCalculator

variable {before tokens : List Token} {bracket token : Token}

def openings (tokens : List Token) : ℕ := tokens.countP Token.isOpening

def closings (tokens : List Token) : ℕ := tokens.countP Token.isClosing

/-- At no place more brackets were closed than opened. -/
def Covered (tokens : List Token) : Prop :=
  ∀ before, before <+: tokens → closings before ≤ openings before

def Balanced (tokens : List Token) : Prop := Covered tokens ∧ openings tokens = closings tokens

/-- Every token is of one of the four shapes of an expression. -/
def Shaped (tokens : List Token) : Prop := ∀ token ∈ tokens, token.shape ≠ .bare

instance : Decidable (Covered tokens) :=
  decidable_of_iff (∀ before ∈ tokens.inits, closings before ≤ openings before)
    (by simp only [List.mem_inits]; rfl)

instance : Decidable (Balanced tokens) := inferInstanceAs (Decidable (_ ∧ _))

@[simp] lemma openings_nil : openings [] = 0 := rfl

@[simp] lemma openings_append (a b : List Token) : openings (a ++ b) = openings a + openings b :=
  List.countP_append

@[simp] lemma closings_append (a b : List Token) : closings (a ++ b) = closings a + closings b :=
  List.countP_append

lemma balanced_nil : Balanced [] := by decide

lemma openings_cons (token : Token) (tokens : List Token) :
    openings (token :: tokens) = openings [token] + openings tokens :=
  openings_append [token] tokens

lemma Shaped.append_left {a b : List Token} (h : Shaped (a ++ b)) : Shaped a :=
  fun token htoken => h token (List.mem_append_left b htoken)

lemma Shaped.take (h : Shaped tokens) (k : ℕ) : Shaped (tokens.take k) :=
  fun token htoken => h token (List.mem_of_mem_take htoken)

lemma Covered.mono {a b : List Token} (h : Covered b) (hinit : a <+: b) : Covered a :=
  fun before hbefore => h before (hbefore.trans hinit)

lemma Covered.append_left {a b : List Token} (h : Covered (a ++ b)) : Covered a :=
  h.mono (List.prefix_append a b)

lemma covered_append_singleton :
    Covered (tokens ++ [token]) ↔
      Covered tokens ∧ closings (tokens ++ [token]) ≤ openings (tokens ++ [token]) := by
  constructor
  · intro h
    exact ⟨h.append_left, h _ List.prefix_rfl⟩
  · rintro ⟨h, hlast⟩ before hbefore
    rcases List.prefix_concat_iff.1 hbefore with rfl | hbefore
    · exact hlast
    · exact h before hbefore

lemma closings_singleton (h : token.shape = .closing) : closings [token] = 1 := by
  simp [closings, Token.isClosing, h]

lemma closings_singleton_of_ne (h : token.shape ≠ .closing) : closings [token] = 0 := by
  unfold closings Token.isClosing
  cases hshape : token.shape <;> simp_all

lemma openings_singleton_of_ne (h : token.shape ≠ .opening) : openings [token] = 0 := by
  unfold openings Token.isOpening
  cases hshape : token.shape <;> simp_all

lemma openings_singleton (h : token.shape = .opening) : openings [token] = 1 := by
  simp [openings, Token.isOpening, h]

lemma counts_opening (h : token.shape = .opening) :
    openings [token] = 1 ∧ closings [token] = 0 :=
  ⟨openings_singleton h, closings_singleton_of_ne (by simp [h])⟩

lemma counts_closing (h : token.shape = .closing) :
    openings [token] = 0 ∧ closings [token] = 1 :=
  ⟨openings_singleton_of_ne (by simp [h]), closings_singleton h⟩

lemma covered_singleton (h : token.shape ≠ .closing) : Covered [token] := by
  have hnone := closings_singleton_of_ne h
  rw [← List.nil_append [token], covered_append_singleton]
  exact ⟨balanced_nil.1, by simp [hnone]⟩

lemma balanced_singleton (hopening : token.shape ≠ .opening) (hclosing : token.shape ≠ .closing) :
    Balanced [token] :=
  ⟨covered_singleton hclosing, by
    rw [openings_singleton_of_ne hopening, closings_singleton_of_ne hclosing]⟩

lemma Covered.append {a b : List Token} (ha : Covered a) (hb : Covered b) : Covered (a ++ b) := by
  have hlevel := ha a List.prefix_rfl
  induction b using List.reverseRecOn with
  | nil => rwa [List.append_nil]
  | append_singleton b token ih =>
    obtain ⟨hcovered, hlast⟩ := covered_append_singleton.1 hb
    rw [← List.append_assoc, covered_append_singleton]
    refine ⟨ih hcovered, ?_⟩
    simp only [openings_append, closings_append] at hlast ⊢
    omega

lemma Balanced.append {a b : List Token} (ha : Balanced a) (hb : Balanced b) : Balanced (a ++ b) :=
  ⟨ha.1.append hb.1, by rw [openings_append, closings_append, ha.2, hb.2]⟩

/-- What follows tokens that balance is counted on its own. -/
lemma Balanced.of_append {a b : List Token} (ha : Balanced a) (h : Balanced (a ++ b)) :
    Balanced b := by
  have hlevel := ha.2
  constructor
  · intro before hbefore
    have hle := h.1 (a ++ before) ((List.prefix_append_right_inj a).2 hbefore)
    rw [openings_append, closings_append] at hle
    omega
  · have htotal := h.2
    rw [openings_append, closings_append] at htotal
    omega

lemma Balanced.enclosed {opened closed : Token} {inner : List Token} (h : Balanced inner)
    (hopened : opened.shape = .opening) (hclosed : closed.shape = .closing) :
    Balanced (opened :: (inner ++ [closed])) := by
  have hfirst : Covered ([opened] ++ inner) :=
    (covered_singleton (by simp [hopened])).append h.1
  have hopening := counts_opening hopened
  have hclosing := counts_closing hclosed
  have hlevel := h.2
  rw [← List.cons_append, ← List.singleton_append]
  refine ⟨covered_append_singleton.2 ⟨hfirst, ?_⟩, ?_⟩
  · simp only [openings_append, closings_append]
    omega
  · simp only [openings_append, closings_append]
    omega

lemma openings_eq_zero : openings tokens = 0 ↔ ∀ token ∈ tokens, token.isOpening = false := by
  simp [openings]

lemma counts_congr {a b : List Token} (h : a.map Token.shape = b.map Token.shape) :
    openings a = openings b ∧ closings a = closings b := by
  have hopenings : ∀ tokens, openings tokens =
      (tokens.map Token.shape).countP fun shape => Token.isOpening ⟨shape, 0⟩ := by
    intro tokens
    rw [List.countP_map]
    rfl
  have hclosings : ∀ tokens, closings tokens =
      (tokens.map Token.shape).countP fun shape => Token.isClosing ⟨shape, 0⟩ := by
    intro tokens
    rw [List.countP_map]
    rfl
  rw [hopenings, hopenings, hclosings, hclosings, h]
  exact ⟨rfl, rfl⟩

lemma Covered.congr {a b : List Token} (h : a.map Token.shape = b.map Token.shape)
    (ha : Covered a) : Covered b := by
  intro before hbefore
  rw [List.prefix_iff_eq_take] at hbefore
  have htake : (a.take before.length).map Token.shape = before.map Token.shape := by
    rw [List.map_take, h, ← List.map_take, ← hbefore]
  obtain ⟨hopenings, hclosings⟩ := counts_congr htake
  rw [← hopenings, ← hclosings]
  exact ha _ (List.take_prefix _ a)

lemma covered_congr {a b : List Token} (h : a.map Token.shape = b.map Token.shape) :
    Covered a ↔ Covered b :=
  ⟨Covered.congr h, Covered.congr h.symm⟩

lemma balanced_congr {a b : List Token} (h : a.map Token.shape = b.map Token.shape) :
    Balanced a ↔ Balanced b := by
  rw [Balanced, Balanced, covered_congr h, (counts_congr h).1, (counts_congr h).2]

/-- The first closing bracket without a partner comes after tokens that balance. -/
theorem not_covered_iff : ¬ Covered tokens ↔
    ∃ before bracket after, tokens = before ++ bracket :: after ∧ Balanced before ∧
      bracket.shape = .closing := by
  constructor
  · intro h
    induction tokens using List.reverseRecOn with
    | nil =>
      refine absurd (fun before hbefore => ?_) h
      rw [List.prefix_nil.1 hbefore]
      exact le_rfl
    | append_singleton tokens token ih =>
      by_cases hcovered : Covered tokens
      · -- only the last token can close more than was opened
        have hlevel := hcovered tokens List.prefix_rfl
        rw [covered_append_singleton, openings_append, closings_append] at h
        by_cases hclosing : token.shape = .closing
        · have hone := closings_singleton hclosing
          have hlast : ¬ closings tokens + closings [token] ≤ openings tokens + openings [token] :=
            fun hle => h ⟨hcovered, hle⟩
          exact ⟨tokens, token, [], rfl, ⟨hcovered, by omega⟩, hclosing⟩
        · have hnone := closings_singleton_of_ne hclosing
          exact absurd ⟨hcovered, by omega⟩ h
      · obtain ⟨before, bracket, after, rfl, hbefore, hbracket⟩ := ih hcovered
        exact ⟨before, bracket, after ++ [token], by simp, hbefore, hbracket⟩
  · rintro ⟨before, bracket, after, rfl, ⟨-, hlevel⟩, hbracket⟩ h
    have hle := h (before ++ [bracket]) ⟨after, by simp⟩
    rw [openings_append, closings_append, closings_singleton hbracket,
      openings_singleton_of_ne (by simp [hbracket])] at hle
    omega

lemma exists_unclosed_of_suffix
    (h : ∃ later, later <:+ tokens ∧ closings later < openings later) :
    ∃ before bracket after, tokens = before ++ bracket :: after ∧ bracket.shape = .opening ∧
      Balanced after := by
  induction tokens with
  | nil =>
    obtain ⟨later, hlater, hlt⟩ := h
    rw [List.suffix_nil.1 hlater] at hlt
    exact absurd hlt (lt_irrefl _)
  | cons token tokens ih =>
    by_cases hrest : ∃ later, later <:+ tokens ∧ closings later < openings later
    · obtain ⟨before, bracket, after, rfl, hbracket, hafter⟩ := ih hrest
      exact ⟨token :: before, bracket, after, rfl, hbracket, hafter⟩
    · push Not at hrest
      obtain ⟨later, hlater, hlt⟩ := h
      rcases List.suffix_cons_iff.1 hlater with rfl | hlater
      · -- only the first token can open more than is closed behind it
        have hlevel := hrest tokens List.suffix_rfl
        rw [openings_cons, ← List.singleton_append, closings_append] at hlt
        have hopening : token.shape = .opening := by
          by_contra hne
          have hnone := openings_singleton_of_ne hne
          omega
        have hone := openings_singleton hopening
        refine ⟨[], token, tokens, rfl, hopening, ?_, by omega⟩
        rintro before ⟨later, rfl⟩
        have hsuffix := hrest later (List.suffix_append before later)
        rw [openings_append, closings_append] at hlt
        omega
      · exact absurd hlt (not_lt.2 (hrest later hlater))

/-- The last opening bracket without a partner comes before tokens that balance. -/
theorem exists_unclosed (h : closings tokens < openings tokens) :
    ∃ before bracket after, tokens = before ++ bracket :: after ∧ bracket.shape = .opening ∧
      Balanced after :=
  exists_unclosed_of_suffix ⟨tokens, List.suffix_rfl, h⟩

namespace Infix

variable {stack sent after : List Token} {fault : Option Fault}

lemma isOpening_of_shouldPop {top : Token} (h : shouldPop token top = true) :
    top.isOpening = false := by
  unfold shouldPop at h
  unfold Token.isOpening
  cases hshape : top.shape <;> simp_all

/-- What a token does to the number of brackets that wait. -/
lemma step_openings (h : step stack token = (sent, .ok after)) :
    openings after + closings [token] = openings stack + openings [token] := by
  cases moves_of_step h with
  | operand shape =>
    rw [closings_singleton_of_ne (by simp [shape]), openings_singleton_of_ne (by simp [shape])]
  | opening shape =>
    rw [closings_singleton_of_ne (by simp [shape]), openings_cons]
    omega
  | operator shape sent waiting leave stay =>
    have hsent := openings_eq_zero.2 fun top htop => isOpening_of_shouldPop (leave top htop)
    rw [closings_singleton_of_ne (by simp [shape]), openings_cons, openings_append]
    omega
  | closing shape sent partner after leave opened =>
    have hsent := openings_eq_zero.2 leave
    have hpartner : openings [partner] = 1 := by simp [openings, opened]
    rw [closings_singleton shape, openings_singleton_of_ne (by simp [shape]), openings_append,
      openings_cons partner]
    omega

lemma feed_openings (h : feed stack tokens = (sent, .ok after)) :
    openings after + closings tokens = openings stack + openings tokens := by
  induction tokens generalizing stack sent with
  | nil => cases h; rfl
  | cons token tokens ih =>
    obtain ⟨first, next, later, hstep, hlater, rfl⟩ := feed_cons_eq_ok h
    have hfirst := step_openings hstep
    have hrest := ih hlater
    rw [← List.singleton_append, openings_append, closings_append]
    omega

/-- Tokens that never close too much are fed without a fault. -/
theorem feed_of_covered (h : Covered tokens) (hshaped : Shaped tokens) :
    ∃ sent after, feed [] tokens = (sent, .ok after) := by
  induction tokens using List.reverseRecOn with
  | nil => exact ⟨[], [], rfl⟩
  | append_singleton tokens token ih =>
    obtain ⟨hcovered, hlast⟩ := covered_append_singleton.1 h
    obtain ⟨sent, stack, hfeed⟩ := ih hcovered hshaped.append_left
    have hcount := feed_openings hfeed
    rw [feed_append hfeed]
    rcases hstep : step stack token with ⟨last, f | after⟩
    · rcases step_eq_error hstep with ⟨hbare, -⟩ | ⟨hclosing, hnone, -⟩
      · exact absurd hbare (hshaped token (by simp))
      · -- a closing bracket finds its partner on the stack
        have hzero := openings_eq_zero.2 hnone
        rw [openings_append, closings_append, closings_singleton hclosing,
          openings_singleton_of_ne (by simp [hclosing])] at hlast
        rw [openings_nil] at hcount
        omega
    · rw [feed_singleton hstep]
      exact ⟨_, _, rfl⟩

lemma feed_of_balanced (h : Balanced tokens) (hshaped : Shaped tokens) :
    ∃ sent after, feed [] tokens = (sent, .ok after) ∧ ∀ top ∈ after, top.isOpening = false := by
  obtain ⟨hcovered, hlevel⟩ := h
  obtain ⟨sent, after, hfeed⟩ := feed_of_covered hcovered hshaped
  have hcount := feed_openings hfeed
  rw [openings_nil] at hcount
  exact ⟨sent, after, hfeed, openings_eq_zero.1 (by omega)⟩

theorem convert_of_balanced (h : Balanced tokens) (hshaped : Shaped tokens) :
    ∃ out, convert none [] tokens = Run.ofList out := by
  obtain ⟨sent, after, hfeed, hafter⟩ := feed_of_balanced h hshaped
  exact ⟨_, convert_of_feed hfeed hafter⟩

/-- At the first closing bracket without a partner everything before it is sent on. What
follows has no influence. -/
theorem convert_lone_closing (hbefore : Balanced before) (hbracket : bracket.shape = .closing)
    (hshaped : Shaped before) :
    ∃ out, convert none [] before = Run.ofList out ∧ ∀ fault rest,
      convert fault [] (before ++ bracket :: rest) =
        ⟨out, some (.expression .unmatchedClosing (some bracket.offset))⟩ := by
  obtain ⟨sent, stack, hfeed, hnone⟩ := feed_of_balanced hbefore hshaped
  refine ⟨sent ++ stack, convert_of_feed hfeed hnone, fun fault rest => ?_⟩
  rw [convert_append, hfeed]
  dsimp only
  rw [convert, step_unmatched hbracket hnone]
  rfl

theorem convert_of_not_covered (h : ¬ Covered tokens) (hshaped : Shaped tokens) :
    ∃ bracket ∈ tokens, bracket.shape = .closing ∧ ∃ sent, ∀ fault, convert fault [] tokens =
      ⟨sent, some (.expression .unmatchedClosing (some bracket.offset))⟩ := by
  obtain ⟨before, bracket, rest, rfl, hbefore, hbracket⟩ := not_covered_iff.1 h
  obtain ⟨out, -, hconvert⟩ := convert_lone_closing hbefore hbracket hshaped.append_left
  exact ⟨bracket, by simp, hbracket, out, fun fault => hconvert fault rest⟩

/-- A fault behind tokens that never close too much is passed on. -/
theorem convert_fault_of_covered (h : Covered tokens) (hshaped : Shaped tokens) (f : Fault) :
    (convert (some f) [] tokens).fault = some f := by
  obtain ⟨sent, stack, hfeed⟩ := feed_of_covered h hshaped
  have hconvert := convert_append (some f) [] tokens []
  rw [List.append_nil, hfeed] at hconvert
  rw [hconvert]
  rfl

/-- What follows the last opening bracket without a partner is sent on as a whole. What waits
below the bracket is not. -/
theorem convert_lone_opening (hbefore : Covered before) (hbracket : bracket.shape = .opening)
    (hafter : Balanced after) (hshaped : Shaped (before ++ bracket :: after)) :
    ∃ sent stack out, feed [] before = (sent, .ok stack) ∧
      convert none [] after = Run.ofList out ∧ convert none [] (before ++ bracket :: after) =
        ⟨sent ++ out, some (.expression .unmatchedOpening (some bracket.offset))⟩ := by
  have hshaped' : Shaped after := fun token htoken => hshaped token (by simp [htoken])
  obtain ⟨sent, stack, hfeed⟩ := feed_of_covered hbefore hshaped.append_left
  obtain ⟨sent', stack', hfeed', hnone⟩ := feed_of_balanced hafter hshaped'
  refine ⟨sent, stack, sent' ++ stack', hfeed, convert_of_feed hfeed' hnone, ?_⟩
  have hjoin : step stack bracket = ([], .ok (bracket :: stack)) :=
    step_of_moves (.opening hbracket stack)
  have hwaits : bracket.isOpening = true := Token.isOpening_iff.2 hbracket
  have hdrain : drain (stack' ++ bracket :: stack) =
      ⟨stack', some (.expression .unmatchedOpening (some bracket.offset))⟩ := by
    rw [drain, sendWhile_of_head (by simpa using hnone) (by simpa using hwaits)]
  have hinside := convert_append none (bracket :: stack) after []
  rw [List.append_nil, show feed (bracket :: stack) after = _ from
    feed_append_opening hbracket hfeed' stack] at hinside
  dsimp only at hinside
  rw [convert, hdrain] at hinside
  rw [convert_append, hfeed]
  dsimp only
  rw [convert, hjoin]
  dsimp only
  rw [hinside]
  rfl

theorem convert_of_unclosed (h : Covered tokens) (hopen : openings tokens ≠ closings tokens)
    (hshaped : Shaped tokens) :
    ∃ bracket ∈ tokens, bracket.shape = .opening ∧ ∃ sent, convert none [] tokens =
      ⟨sent, some (.expression .unmatchedOpening (some bracket.offset))⟩ := by
  have hlt : closings tokens < openings tokens :=
    lt_of_le_of_ne (h tokens List.prefix_rfl) hopen.symm
  obtain ⟨before, bracket, after, rfl, hbracket, hafter⟩ := exists_unclosed hlt
  obtain ⟨sent, -, out, -, -, hconvert⟩ :=
    convert_lone_opening h.append_left hbracket hafter hshaped
  exact ⟨bracket, by simp, hbracket, sent ++ out, hconvert⟩

end Infix

end PostfixCalculator
