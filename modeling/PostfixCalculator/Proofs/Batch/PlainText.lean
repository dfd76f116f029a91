import Mathlib.Data.List.TakeWhile
import PostfixCalculator.Batch.Listing
import PostfixCalculator.Proofs.Text.Lines

/-!
# Plain text lists expressions

A plain text consists of rows: expressions with blanks around them, blank rows and comments, with
line ends between them. Its expressions are read off the rows, and every text consists of rows.

Where only line feeds count, a carriage return is a blank like any other, and rows may have it.
-/
namespace PostfixCalculator.Batch

open Text

variable {mode : LineMode}

/-- The characters that end a line. -/
def endChars : LineMode → List Char
  | .universal => ['\n', '\r']
  | .lineFeed => ['\n']

/-- There is no line end in the text. -/
def OneLine (mode : LineMode) (text : List Char) : Prop := ∀ c ∈ endChars mode, c ∉ text

/-- All characters are blank, but none ends a line. -/
structure IsGap (mode : LineMode) (text : List Char) : Prop where
  blank : ∀ c ∈ text, isBlank c = true
  oneLine : OneLine mode text

/-- What plain text can list: some characters on one line, no blank at either end, and no number
sign in front. -/
structure IsExpression (mode : LineMode) (x : List Char) : Prop where
  ne_nil : x ≠ []
  starts : ∀ c ∈ x.head?, isBlank c = false ∧ c ≠ '#'
  ends : ∀ c ∈ x.getLast?, isBlank c = false
  oneLine : OneLine mode x

instance (mode : LineMode) (x : List Char) : Decidable (IsExpression mode x) :=
  decidable_of_iff (x ≠ [] ∧ (x.head?.all fun c => !isBlank c && c != '#') = true ∧
      (x.getLast?.all fun c => !isBlank c) = true ∧
      ((endChars mode).all fun c => !x.contains c) = true) <| by
    constructor
    · rintro ⟨hne, hstarts, hends, hline⟩
      rw [Option.all_eq_true] at hstarts hends
      exact ⟨hne, by simpa using hstarts, by simpa using hends, by simpa [OneLine] using hline⟩
    · rintro ⟨hne, hstarts, hends, hline⟩
      rw [Option.all_eq_true, Option.all_eq_true]
      exact ⟨hne, by simpa using hstarts, by simpa using hends, by simpa [OneLine] using hline⟩

/-- A row of plain text. -/
inductive Row (mode : LineMode) where
  | expression (before x after : List Char) (hbefore : IsGap mode before)
      (hx : IsExpression mode x) (hafter : IsGap mode after)
  | blank (gap : List Char) (hgap : IsGap mode gap)
  | comment (before text : List Char) (hbefore : IsGap mode before) (htext : OneLine mode text)

namespace Row

def text : Row mode → List Char
  | expression before x after _ _ _ => before ++ (x ++ after)
  | blank gap _ => gap
  | comment before text _ _ => before ++ '#' :: text

/-- The expression on a row, if there is one. -/
def listed : Row mode → Option (List Char)
  | expression _ x _ _ _ _ => some x
  | _ => none

end Row

/-- What ends a row. A carriage return before a line feed is a blank where it does not count, so the
two of them end a row in any case. -/
inductive LineEnd : LineMode → Type where
  | lineFeed {mode : LineMode} : LineEnd mode
  | both {mode : LineMode} : LineEnd mode
  | carriageReturn : LineEnd .universal

def LineEnd.text : LineEnd mode → List Char
  | lineFeed => ['\n']
  | both => ['\r', '\n']
  | carriageReturn => ['\r']

/-- Rows with their line ends, and a last row without one, which may be empty. -/
structure Sheet (mode : LineMode) where
  rows : List (Row mode × LineEnd mode)
  last : Row mode

namespace Sheet

def text (s : Sheet mode) : List Char :=
  s.rows.flatMap (fun r => r.1.text ++ r.2.text) ++ s.last.text

@[simp]
lemma text_cons (r : Row mode × LineEnd mode) (rows : List (Row mode × LineEnd mode))
    (last : Row mode) :
    (Sheet.mk (r :: rows) last).text = r.1.text ++ (r.2.text ++ (Sheet.mk rows last).text) := by
  rw [text, List.flatMap_cons, List.append_assoc, List.append_assoc]
  rfl

def allRows (s : Sheet mode) : List (Row mode) := s.rows.map Prod.fst ++ [s.last]

def expressions (s : Sheet mode) : List (List Char) := s.allRows.filterMap Row.listed

end Sheet

/-- What a line lists. -/
def lineExpression (line : List Char) : Option String :=
  if isSkipped line then none else some (String.ofList (trimBlank line))

variable {line text before after x : List Char}

lemma lineFeed_mem_endChars (mode : LineMode) : '\n' ∈ endChars mode := by cases mode <;> decide

lemma numberSign_notMem_endChars (mode : LineMode) : '#' ∉ endChars mode := by
  cases mode <;> decide

lemma oneLine_nil : OneLine mode [] := fun _ _ => List.not_mem_nil

lemma OneLine.of_subset (h : OneLine mode text) (hsub : x ⊆ text) : OneLine mode x :=
  fun c hc hmem => h c hc (hsub hmem)

lemma OneLine.append (hbefore : OneLine mode before) (h : OneLine mode text) :
    OneLine mode (before ++ text) :=
  fun c hc hmem => (List.mem_append.1 hmem).elim (hbefore c hc) (h c hc)

lemma OneLine.cons {c : Char} (hc : c ∉ endChars mode) (h : OneLine mode text) :
    OneLine mode (c :: text) :=
  fun d hd => List.not_mem_cons_of_ne_of_not_mem (fun heq => hc (heq ▸ hd)) (h d hd)

lemma OneLine.lineFeed_notMem (h : OneLine mode text) : '\n' ∉ text :=
  h _ (lineFeed_mem_endChars mode)

lemma oneLine_universal_iff : OneLine .universal text ↔ '\n' ∉ text ∧ '\r' ∉ text := by
  simp [OneLine, endChars]

lemma isGap_nil : IsGap mode [] := ⟨by simp, oneLine_nil⟩

section Lines

lemma unifyLineEnds_cons {c : Char} (h : c ≠ '\r') (rest : List Char) :
    unifyLineEnds (c :: rest) = c :: unifyLineEnds rest := by
  rw [unifyLineEnds]
  · rintro more rfl
    exact absurd rfl h
  · exact h

lemma unify_nil (mode : LineMode) : mode.unify [] = [] := by cases mode <;> rfl

lemma unify_lineFeed (mode : LineMode) (rest : List Char) :
    mode.unify ('\n' :: rest) = '\n' :: mode.unify rest := by
  cases mode with
  | universal => exact unifyLineEnds_cons (by decide) rest
  | lineFeed => rfl

lemma unify_cons {c : Char} (hc : c ∉ endChars mode) (rest : List Char) :
    mode.unify (c :: rest) = c :: mode.unify rest := by
  cases mode with
  | universal => exact unifyLineEnds_cons (fun hreturn => hc (by rw [hreturn]; decide)) rest
  | lineFeed => rfl

lemma unify_append (h : OneLine mode line) (rest : List Char) :
    mode.unify (line ++ rest) = line ++ mode.unify rest := by
  induction line with
  | nil => rfl
  | cons c line ih =>
    have hc : c ∉ endChars mode := fun hend => h c hend List.mem_cons_self
    rw [List.cons_append, unify_cons hc, ih (h.of_subset (List.subset_cons_self c line)),
      List.cons_append]

lemma lineExpression_nil : lineExpression [] = none := rfl

/-- A blank at the end of a line changes nothing. -/
lemma lineExpression_concat_blank {c : Char} (hc : isBlank c = true) (line : List Char) :
    lineExpression (line ++ [c]) = lineExpression line := by
  have hdrop : dropBlank (line ++ [c]) =
      if (dropBlank line).isEmpty then [] else dropBlank line ++ [c] := by
    rw [dropBlank, List.dropWhile_append, List.dropWhile_cons_of_pos hc]
    rfl
  unfold lineExpression isSkipped trimBlank
  rw [hdrop]
  cases hline : dropBlank line with
  | nil => rfl
  | cons d rest =>
    have htrim : dropBlank (d :: rest ++ [c]).reverse = dropBlank (d :: rest).reverse := by
      rw [List.reverse_append, List.reverse_singleton, List.singleton_append, dropBlank,
        List.dropWhile_cons_of_pos hc]
      rfl
    rw [List.isEmpty_cons, if_neg Bool.false_ne_true, htrim]
    rfl

/-- An empty line at the end lists nothing, so it does not matter whether it is one. -/
lemma textExpressions_eq (mode : LineMode) (text : List Char) :
    textExpressions mode text = (splitLines (mode.unify text)).filterMap lineExpression := by
  have hlisted : ∀ lines : List (List Char), (lines.filter fun line => !isSkipped line).map
      (fun line => String.ofList (trimBlank line)) = lines.filterMap lineExpression := by
    intro lines
    induction lines with
    | nil => rfl
    | cons line lines ih => cases h : isSkipped line <;> simp [lineExpression, h, ih]
  rw [textExpressions, hlisted]
  unfold LineMode.lines
  dsimp only
  split_ifs with hlast
  · have hsplit := splitLines_eq (mode.unify text)
    have hopen : openLine (mode.unify text) = [] := by
      rw [beq_iff_eq, hsplit, List.getLast?_concat, Option.some.injEq] at hlast
      exact hlast
    conv_rhs => rw [hsplit, hopen, List.filterMap_append]
    exact (List.append_nil _).symm
  · rfl

lemma splitLines_oneLine (h : '\n' ∉ line) : splitLines line = [line] := by
  have happend := splitLines_append h []
  rwa [List.append_nil, splitLines, List.modifyHead_cons, List.append_nil] at happend

/-- The last line needs no end. -/
lemma textExpressions_last (h : OneLine mode line) :
    textExpressions mode line = (lineExpression line).toList := by
  have hunify := unify_append h []
  rw [List.append_nil, unify_nil, List.append_nil] at hunify
  rw [textExpressions_eq, hunify, splitLines_oneLine h.lineFeed_notMem, List.filterMap_cons]
  cases lineExpression line <;> rfl

lemma textExpressions_nil (mode : LineMode) : textExpressions mode [] = [] :=
  textExpressions_last oneLine_nil

lemma filterMap_splitLines_newline (h : '\n' ∉ line) (rest : List Char) :
    (splitLines (line ++ '\n' :: rest)).filterMap lineExpression =
      (lineExpression line).toList ++ (splitLines rest).filterMap lineExpression := by
  rw [splitLines_append h, splitLines_newline, List.modifyHead_cons, List.append_nil,
    List.filterMap_cons]
  cases lineExpression line <;> rfl

/-- A line feed behind a carriage return belongs to it; if it ended a line of its own, this line
would be empty. -/
lemma textExpressions_return (h : OneLine .universal line) (rest : List Char) :
    textExpressions .universal (line ++ '\r' :: rest) =
      (lineExpression line).toList ++ textExpressions .universal rest := by
  rw [textExpressions_eq, textExpressions_eq, unify_append h, LineMode.unify]
  by_cases hfeed : ∃ more, rest = '\n' :: more
  · obtain ⟨more, rfl⟩ := hfeed
    have hnewline : unifyLineEnds ('\n' :: more) = '\n' :: unifyLineEnds more :=
      unifyLineEnds_cons (by decide) more
    rw [unifyLineEnds, filterMap_splitLines_newline h.lineFeed_notMem, LineMode.unify, hnewline,
      splitLines_newline, List.filterMap_cons, lineExpression_nil]
  · rw [unifyLineEnds, filterMap_splitLines_newline h.lineFeed_notMem, LineMode.unify]
    exact fun more heq => hfeed ⟨more, heq⟩

lemma textExpressions_lineFeed (h : OneLine mode line) (rest : List Char) :
    textExpressions mode (line ++ '\n' :: rest) =
      (lineExpression line).toList ++ textExpressions mode rest := by
  rw [textExpressions_eq, textExpressions_eq, unify_append h, unify_lineFeed,
    filterMap_splitLines_newline h.lineFeed_notMem]

lemma textExpressions_end (h : OneLine mode line) (ending : LineEnd mode) (rest : List Char) :
    textExpressions mode (line ++ (ending.text ++ rest)) =
      (lineExpression line).toList ++ textExpressions mode rest := by
  cases ending with
  | lineFeed => exact textExpressions_lineFeed h rest
  | carriageReturn => exact textExpressions_return h rest
  | both =>
    cases mode with
    | universal =>
      have hempty : textExpressions .universal ('\n' :: rest) = textExpressions .universal rest :=
        textExpressions_lineFeed oneLine_nil rest
      have hreturn := textExpressions_return h ('\n' :: rest)
      rwa [hempty] at hreturn
    | lineFeed =>
      have hline : OneLine .lineFeed (line ++ ['\r']) := h.append (oneLine_nil.cons (by decide))
      have hfeed := textExpressions_lineFeed hline rest
      rwa [lineExpression_concat_blank (by decide), List.append_assoc] at hfeed

end Lines

section Rows

lemma dropBlank_gap (hbefore : ∀ c ∈ before, isBlank c = true)
    (hrest : ∀ c ∈ text.head?, isBlank c = false) : dropBlank (before ++ text) = text := by
  rw [dropBlank, List.dropWhile_append_of_pos hbefore]
  cases text with
  | nil => rfl
  | cons c text => rw [List.dropWhile_cons_of_neg (by simp [hrest c rfl])]

/-- Blanks around an expression are removed. -/
lemma trimBlank_expression (hbefore : IsGap mode before) (hx : IsExpression mode x)
    (hafter : IsGap mode after) :
    dropBlank (before ++ (x ++ after)) = x ++ after ∧ trimBlank (before ++ (x ++ after)) = x := by
  have hhead : ∀ c ∈ (x ++ after).head?, isBlank c = false := by
    rw [List.head?_append_of_ne_nil x hx.ne_nil]
    exact fun c hc => (hx.starts c hc).1
  have hdrop := dropBlank_gap hbefore.blank hhead
  have hlast : ∀ c ∈ x.reverse.head?, isBlank c = false := by
    rw [List.head?_reverse]
    exact hx.ends
  have hgap : ∀ c ∈ after.reverse, isBlank c = true := fun c hc =>
    hafter.blank c (List.mem_reverse.1 hc)
  refine ⟨hdrop, ?_⟩
  rw [trimBlank, hdrop, List.reverse_append, dropBlank_gap hgap hlast, List.reverse_reverse]

lemma Row.oneLine (r : Row mode) : OneLine mode r.text := by
  cases r with
  | expression before x after hbefore hx hafter =>
    exact hbefore.oneLine.append (hx.oneLine.append hafter.oneLine)
  | blank gap hgap => exact hgap.oneLine
  | comment before text hbefore htext =>
    exact hbefore.oneLine.append (htext.cons (numberSign_notMem_endChars mode))

lemma lineExpression_row (r : Row mode) : lineExpression r.text = r.listed.map String.ofList := by
  unfold lineExpression isSkipped
  cases r with
  | expression before x after hbefore hx hafter =>
    obtain ⟨hdrop, htrim⟩ := trimBlank_expression hbefore hx hafter
    obtain ⟨c, rest, rfl⟩ := List.exists_cons_of_ne_nil hx.ne_nil
    have hc := (hx.starts c rfl).2
    rw [Row.text, hdrop, htrim]
    simp [hc, Row.listed]
  | blank gap hgap =>
    have hdrop := dropBlank_gap hgap.blank (show ∀ c ∈ ([] : List Char).head?, _ by simp)
    rw [List.append_nil] at hdrop
    rw [Row.text, hdrop]
    rfl
  | comment before text hbefore htext =>
    have hdrop := dropBlank_gap hbefore.blank
      (show ∀ c ∈ ('#' :: text).head?, isBlank c = false by simp; decide)
    rw [Row.text, hdrop]
    rfl

/-- The expressions of a sheet are read off its text. -/
theorem textExpressions_text (s : Sheet mode) :
    textExpressions mode s.text = s.expressions.map String.ofList := by
  obtain ⟨rows, last⟩ := s
  induction rows with
  | nil =>
    show textExpressions mode last.text = ([last].filterMap Row.listed).map String.ofList
    rw [textExpressions_last last.oneLine, lineExpression_row, List.filterMap_cons]
    cases last.listed <;> rfl
  | cons r rows ih =>
    obtain ⟨row, ending⟩ := r
    have hlisted : (Sheet.mk ((row, ending) :: rows) last).expressions =
        row.listed.toList ++ (Sheet.mk rows last).expressions := by
      cases h : row.listed <;> simp [Sheet.expressions, Sheet.allRows, h]
    rw [Sheet.text_cons, hlisted, textExpressions_end row.oneLine, lineExpression_row, ih, List.map_append]
    cases row.listed <;> rfl

lemma exists_gap (text : List Char) : ∃ gap rest, text = gap ++ rest ∧
    (∀ c ∈ gap, isBlank c = true) ∧ ∀ c ∈ rest.head?, isBlank c = false := by
  refine ⟨text.takeWhile isBlank, dropBlank text, List.takeWhile_append_dropWhile.symm,
    fun c hc => List.mem_takeWhile_imp hc, fun c hc => ?_⟩
  have hhead := List.head?_dropWhile_not isBlank text
  rw [Option.mem_def, dropBlank] at hc
  rw [hc] at hhead
  simpa using hhead

/-- What does not start with a blank is an expression with a gap behind it, or a comment. -/
lemma exists_expression {c : Char} {rest : List Char} (hc : isBlank c = false) (hsign : c ≠ '#')
    (h : OneLine mode (c :: rest)) :
    ∃ x after, c :: rest = x ++ after ∧ IsExpression mode x ∧ IsGap mode after := by
  obtain ⟨gap, y, hsplit, hgap, hlast⟩ := exists_gap (c :: rest).reverse
  have hrest : c :: rest = y.reverse ++ gap.reverse := by
    rw [← List.reverse_append, ← hsplit, List.reverse_reverse]
  have hne : y.reverse ≠ [] := by
    intro hnil
    rw [hnil, List.nil_append] at hrest
    have hmem : c ∈ gap := List.mem_reverse.1 (hrest ▸ List.mem_cons_self)
    rw [hgap c hmem] at hc
    cases hc
  have hhead : y.reverse.head? = some c := by
    rw [← List.head?_append_of_ne_nil _ hne, ← hrest, List.head?_cons]
  rw [hrest] at h
  refine ⟨y.reverse, gap.reverse, hrest, ⟨hne, ?_, ?_, ?_⟩, ⟨?_, ?_⟩⟩
  · intro d hd
    rw [hhead, Option.mem_some_iff] at hd
    exact hd ▸ ⟨hc, hsign⟩
  · rwa [List.getLast?_reverse]
  · exact h.of_subset (List.subset_append_left _ _)
  · exact fun d hd => hgap d (List.mem_reverse.1 hd)
  · exact h.of_subset (List.subset_append_right _ _)

/-- Every line is a row. -/
lemma exists_row (h : OneLine mode line) : ∃ r : Row mode, r.text = line := by
  obtain ⟨before, rest, rfl, hblank, hhead⟩ := exists_gap line
  have hbefore : IsGap mode before := ⟨hblank, h.of_subset (List.subset_append_left _ _)⟩
  have hrest := h.of_subset (List.subset_append_right before rest)
  cases rest with
  | nil => exact ⟨.blank before hbefore, (List.append_nil before).symm⟩
  | cons c rest =>
    by_cases hsign : c = '#'
    · subst hsign
      exact ⟨.comment before rest hbefore (hrest.of_subset (List.subset_cons_self _ rest)), rfl⟩
    · obtain ⟨x, after, heq, hx, hafter⟩ := exists_expression (hhead c rfl) hsign hrest
      exact ⟨.expression before x after hbefore hx hafter, by rw [Row.text, heq]⟩

lemma exists_lineEnd {c : Char} (hc : c ∈ endChars mode) :
    ∃ ending : LineEnd mode, ending.text = [c] := by
  cases mode with
  | universal =>
    rcases List.mem_pair.1 hc with rfl | rfl
    · exact ⟨.lineFeed, rfl⟩
    · exact ⟨.carriageReturn, rfl⟩
  | lineFeed => exact ⟨.lineFeed, List.mem_singleton.1 hc ▸ rfl⟩

/-- Every text consists of rows. -/
theorem exists_sheet (mode : LineMode) (text : List Char) : ∃ s : Sheet mode, s.text = text := by
  -- the line that was begun grows until it ends
  have hgrow : ∀ line, OneLine mode line → ∃ s : Sheet mode, s.text = line ++ text := by
    induction text with
    | nil =>
      intro line h
      obtain ⟨r, rfl⟩ := exists_row h
      exact ⟨⟨[], r⟩, (List.append_nil _).symm⟩
    | cons c text ih =>
      intro line h
      by_cases hc : c ∈ endChars mode
      · obtain ⟨ending, hending⟩ := exists_lineEnd hc
        obtain ⟨r, rfl⟩ := exists_row h
        obtain ⟨⟨rows, last⟩, hs⟩ := ih [] oneLine_nil
        refine ⟨⟨(r, ending) :: rows, last⟩, ?_⟩
        rw [← List.nil_append text, ← hs]
        rw [Sheet.text_cons, hending]
        rfl
      · obtain ⟨s, hs⟩ := ih (line ++ [c]) (h.append (oneLine_nil.cons hc))
        exact ⟨s, by rw [hs, List.append_assoc, List.singleton_append]⟩
  exact hgrow [] oneLine_nil

end Rows

lemma Row.isExpression {r : Row mode} (h : r.listed = some x) : IsExpression mode x := by
  cases r with
  | expression before y after hbefore hy hafter => exact Option.some.inj h ▸ hy
  | blank => cases h
  | comment => cases h

lemma Sheet.isExpression {s : Sheet mode} (h : x ∈ s.expressions) : IsExpression mode x := by
  obtain ⟨r, -, hr⟩ := List.mem_filterMap.1 h
  exact r.isExpression hr

lemma lineExpression_expression (hx : IsExpression mode x) :
    lineExpression x = some (String.ofList x) := by
  have hrow := lineExpression_row (.expression [] x [] isGap_nil hx isGap_nil)
  rwa [Row.text, List.nil_append, List.append_nil] at hrow

/-- Expressions with single line feeds between them are read back. -/
lemma textExpressions_intercalate {xs : List (List Char)} (h : ∀ x ∈ xs, IsExpression mode x) :
    textExpressions mode (List.intercalate ['\n'] xs) = xs.map String.ofList := by
  induction xs with
  | nil => exact textExpressions_nil mode
  | cons x xs ih =>
    obtain ⟨hx, hxs⟩ := List.forall_mem_cons.1 h
    cases xs with
    | nil =>
      rw [List.intercalate_singleton, textExpressions_last hx.oneLine,
        lineExpression_expression hx]
      rfl
    | cons y ys =>
      rw [List.intercalate_cons_cons, List.append_assoc, List.singleton_append,
        textExpressions_lineFeed hx.oneLine, ih hxs, lineExpression_expression hx]
      rfl

end PostfixCalculator.Batch
