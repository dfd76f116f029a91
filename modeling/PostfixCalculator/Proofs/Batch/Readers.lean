import PostfixCalculator.Proofs.Batch.Documents
import PostfixCalculator.Proofs.Batch.PlainText
import PostfixCalculator.Proofs.Command.Reporting

/-!
# Readers of plain text

Files have line ends of all kinds, and standard input may know line feeds only. A carriage return is
then a blank like any other: it may stand before a line feed, within an expression, or between a
comment and what would be the next row of a file. Both readers find the same expressions exactly if
the last two do not happen.
-/
namespace PostfixCalculator.Batch

open Text

/-- What stands behind a carriage return is blank, or its first other character is a number sign. -/
def HidesNothing (text : List Char) : Prop :=
  ∀ rest, '\r' :: rest <:+ text → isSkipped rest = true

/-- Carriage returns separate nothing on the row: none is within its expression, and its comment has no
expression behind one. -/
def Row.IsWhole {mode : LineMode} : Row mode → Prop
  | expression _ x _ _ _ _ => '\r' ∉ x
  | blank _ _ => True
  | comment _ text _ _ => HidesNothing text

variable {mode : LineMode} {line text before after x : List Char}

section Agreement

/-- What stands before a line end and what stands behind it are read apart. -/
lemma textExpressions_append (text : List Char) (ending : LineEnd mode) (rest : List Char) :
    textExpressions mode (text ++ (ending.text ++ rest)) =
      textExpressions mode text ++ textExpressions mode rest := by
  obtain ⟨s, rfl⟩ := exists_sheet mode text
  obtain ⟨t, rfl⟩ := exists_sheet mode rest
  have hjoined := textExpressions_text ⟨s.rows ++ (s.last, ending) :: t.rows, t.last⟩
  have htext : (Sheet.mk (s.rows ++ (s.last, ending) :: t.rows) t.last).text =
      s.text ++ (ending.text ++ t.text) := by
    simp [Sheet.text]
  have hlisted : (Sheet.mk (s.rows ++ (s.last, ending) :: t.rows) t.last).expressions =
      s.expressions ++ t.expressions := by
    rw [Sheet.expressions, Sheet.expressions, Sheet.expressions, ← List.filterMap_append]
    simp [Sheet.allRows]
  rw [htext, hlisted, List.map_append] at hjoined
  rw [hjoined, textExpressions_text, textExpressions_text]

/-- A file with the rows of standard input is read row by row. -/
lemma textExpressions_rows (s : Sheet .lineFeed) :
    textExpressions .universal s.text =
      s.allRows.flatMap fun r => textExpressions .universal r.text := by
  obtain ⟨rows, last⟩ := s
  induction rows with
  | nil => exact (List.append_nil _).symm
  | cons r rows ih =>
    obtain ⟨row, ending⟩ := r
    have hends : ∃ e : LineEnd .universal, e.text = ending.text := by
      cases ending with
      | lineFeed => exact ⟨.lineFeed, rfl⟩
      | both => exact ⟨.both, rfl⟩
    obtain ⟨e, he⟩ := hends
    rw [Sheet.text_cons, ← he, textExpressions_append, ih]
    rfl

lemma textExpressions_cons_blank {c : Char} (hc : isBlank c = true) (text : List Char) :
    textExpressions mode (c :: text) = textExpressions mode text := by
  by_cases hend : c ∈ endChars mode
  · obtain ⟨ending, hending⟩ := exists_lineEnd hend
    have happend := textExpressions_append [] ending text
    rwa [hending, textExpressions_nil] at happend
  · have hfeed : c ≠ '\n' := fun heq => hend (heq ▸ lineFeed_mem_endChars mode)
    have hline : ∀ line, lineExpression (c :: line) = lineExpression line := by
      intro line
      have hdrop : dropBlank (c :: line) = dropBlank line := List.dropWhile_cons_of_pos hc
      unfold lineExpression isSkipped trimBlank
      rw [hdrop]
    rw [textExpressions_eq, textExpressions_eq, unify_cons hend, splitLines_cons hfeed]
    cases hsplit : splitLines (mode.unify text) with
    | nil => exact absurd hsplit (splitLines_ne_nil _)
    | cons first rest =>
      rw [List.modifyHead_cons, List.filterMap_cons, List.filterMap_cons, hline]

/-- Blanks at the front list nothing, whether they end lines or not. -/
lemma textExpressions_gap (hbefore : ∀ c ∈ before, isBlank c = true) (text : List Char) :
    textExpressions mode (before ++ text) = textExpressions mode text := by
  induction before with
  | nil => rfl
  | cons c before ih =>
    obtain ⟨hc, hrest⟩ := List.forall_mem_cons.1 hbefore
    rw [List.cons_append, textExpressions_cons_blank hc, ih hrest]

lemma textExpressions_blank (h : ∀ c ∈ text, isBlank c = true) :
    textExpressions mode text = [] := by
  have hgap : textExpressions mode (text ++ []) = textExpressions mode [] := textExpressions_gap h []
  rwa [List.append_nil, textExpressions_nil] at hgap

/-- A file has the expression of a row too, if no carriage return is within it. -/
lemma textExpressions_expression (hx : IsExpression .lineFeed x) (hreturn : '\r' ∉ x)
    (hbefore : IsGap .lineFeed before) (hafter : IsGap .lineFeed after) :
    textExpressions .universal (before ++ (x ++ after)) = [String.ofList x] := by
  have hwhole : IsExpression .universal x :=
    ⟨hx.ne_nil, hx.starts, hx.ends, oneLine_universal_iff.2 ⟨hx.oneLine.lineFeed_notMem, hreturn⟩⟩
  have hgap : ∀ gap, IsGap .lineFeed gap → '\r' ∉ gap →
      textExpressions .universal (x ++ gap) = [String.ofList x] := by
    intro gap hgap hnone
    have hline : IsGap .universal gap :=
      ⟨hgap.blank, oneLine_universal_iff.2 ⟨hgap.oneLine.lineFeed_notMem, hnone⟩⟩
    exact textExpressions_text ⟨[], .expression [] x gap isGap_nil hwhole hline⟩
  rw [textExpressions_gap hbefore.blank]
  by_cases hmem : '\r' ∈ after
  · -- the first carriage return ends the line, and what follows it is blank
    obtain ⟨gap, rest, rfl, hnone⟩ := List.eq_append_cons_of_mem hmem
    have hfront : IsGap .lineFeed gap :=
      ⟨fun c hc => hafter.blank c (List.mem_append_left _ hc),
        hafter.oneLine.of_subset (List.subset_append_left _ _)⟩
    have hrest : ∀ c ∈ rest, isBlank c = true := fun c hc =>
      hafter.blank c (List.mem_append_right _ (List.mem_cons_of_mem _ hc))
    have happend := textExpressions_append (x ++ gap) .carriageReturn rest
    rwa [hgap gap hfront hnone, textExpressions_blank hrest, List.append_nil,
      List.append_assoc] at happend
  · exact hgap after hafter hmem

lemma hidesNothing_cons {c : Char} (hc : c ≠ '\r') :
    HidesNothing (c :: text) ↔ HidesNothing text := by
  refine forall_congr' fun rest => imp_congr_left ?_
  rw [List.suffix_cons_iff]
  exact or_iff_right fun heq => hc (List.head_eq_of_cons_eq heq).symm

lemma hidesNothing_of_notMem (h : '\r' ∉ text) : HidesNothing text := fun _ hrest =>
  absurd (hrest.subset List.mem_cons_self) h

lemma hidesNothing_return (h : '\r' ∉ line) (rest : List Char) :
    HidesNothing (line ++ '\r' :: rest) ↔ isSkipped rest = true ∧ HidesNothing rest := by
  induction line with
  | nil =>
    refine ⟨fun h => ⟨h rest List.suffix_rfl, fun more hmore =>
      h more (hmore.trans (List.suffix_cons _ _))⟩, fun ⟨hrest, h⟩ more hmore => ?_⟩
    rcases List.suffix_cons_iff.1 hmore with heq | hsuffix
    · exact List.tail_eq_of_cons_eq heq ▸ hrest
    · exact h more hsuffix
  | cons c line ih =>
    obtain ⟨hc, hline⟩ := not_or.1 (mt List.mem_cons.2 h)
    rw [List.cons_append, hidesNothing_cons (Ne.symm hc), ih hline]

/-- A line is skipped whether the skipped text behind it belongs to it or not. -/
lemma isSkipped_append (line : List Char) {rest : List Char} (h : isSkipped rest = true) :
    isSkipped (line ++ '\r' :: rest) = isSkipped line := by
  have hdrop : dropBlank (line ++ '\r' :: rest) =
      if (dropBlank line).isEmpty then dropBlank rest else dropBlank line ++ '\r' :: rest := by
    rw [dropBlank, List.dropWhile_append, List.dropWhile_cons_of_pos (by decide)]
    rfl
  unfold isSkipped at h ⊢
  rw [hdrop]
  cases hline : dropBlank line with
  | nil => exact h
  | cons c more => rfl

lemma lineExpression_toList_eq_nil_iff :
    (lineExpression line).toList = [] ↔ isSkipped line = true := by
  unfold lineExpression
  cases isSkipped line <;> simp

/-- A file finds nothing if all its lines are skipped. -/
lemma textExpressions_eq_nil_iff (h : '\n' ∉ text) :
    textExpressions .universal text = [] ↔ isSkipped text = true ∧ HidesNothing text := by
  induction hlength : text.length using Nat.strong_induction_on generalizing text with
  | _ n ih =>
    by_cases hreturn : '\r' ∈ text
    · obtain ⟨line, rest, rfl, hline⟩ := List.eq_append_cons_of_mem hreturn
      have honeLine : OneLine .universal line :=
        oneLine_universal_iff.2 ⟨fun hmem => h (List.mem_append_left _ hmem), hline⟩
      have hrest : '\n' ∉ rest := fun hmem =>
        h (List.mem_append_right _ (List.mem_cons_of_mem _ hmem))
      have hshorter : rest.length < n := by
        rw [← hlength, List.length_append, List.length_cons]
        omega
      rw [textExpressions_return honeLine, List.append_eq_nil_iff, ih _ hshorter hrest rfl,
        lineExpression_toList_eq_nil_iff, hidesNothing_return hline]
      refine and_congr_left fun ⟨hskipped, _⟩ => ?_
      rw [isSkipped_append line hskipped]
    · rw [textExpressions_last (oneLine_universal_iff.2 ⟨h, hreturn⟩),
        lineExpression_toList_eq_nil_iff]
      exact (and_iff_left (hidesNothing_of_notMem hreturn)).symm

lemma textExpressions_comment (hbefore : ∀ c ∈ before, isBlank c = true) (h : '\n' ∉ text) :
    textExpressions .universal (before ++ '#' :: text) = [] ↔ HidesNothing text := by
  have hsign : '\n' ∉ '#' :: text := List.not_mem_cons_of_ne_of_not_mem (by decide) h
  rw [textExpressions_gap hbefore, textExpressions_eq_nil_iff hsign,
    hidesNothing_cons (by decide)]
  exact and_iff_right rfl

lemma Row.textExpressions_of_isWhole {r : Row .lineFeed} (h : r.IsWhole) :
    textExpressions .universal r.text = r.listed.toList.map String.ofList := by
  cases r with
  | expression before x after hbefore hx hafter =>
    exact textExpressions_expression hx h hbefore hafter
  | blank gap hgap => exact textExpressions_blank hgap.blank
  | comment before text hbefore htext =>
    exact (textExpressions_comment hbefore.blank htext.lineFeed_notMem).2 h

lemma eq_of_flatMap_eq {α β : Type} {f g : α → List β} {xs : List α}
    (hle : ∀ x ∈ xs, (g x).length ≤ (f x).length) (h : xs.flatMap f = xs.flatMap g) :
    ∀ x ∈ xs, f x = g x := by
  induction xs with
  | nil => exact fun x hx => absurd hx List.not_mem_nil
  | cons x xs ih =>
    obtain ⟨hx, hxs⟩ := List.forall_mem_cons.1 hle
    have hrest : (xs.flatMap g).length ≤ (xs.flatMap f).length := by
      rw [List.length_flatMap, List.length_flatMap]
      exact List.sum_le_sum hxs
    rw [List.flatMap_cons, List.flatMap_cons] at h
    have hlength := congrArg List.length h
    rw [List.length_append, List.length_append] at hlength
    obtain ⟨hhead, htail⟩ := List.append_inj h (by omega)
    exact List.forall_mem_cons.2 ⟨hhead, ih hxs htail⟩

/-- A file is read like standard input that knows line feeds only, exactly if carriage returns separate
nothing on any row. -/
theorem textExpressions_universal_iff (s : Sheet .lineFeed) :
    textExpressions .universal s.text = s.expressions.map String.ofList ↔
      ∀ r ∈ s.allRows, r.IsWhole := by
  have hlisted : s.expressions.map String.ofList =
      s.allRows.flatMap fun r => r.listed.toList.map String.ofList := by
    rw [Sheet.expressions, List.filterMap_eq_flatMap_toList, List.map_flatMap]
  constructor
  · intro h
    have hreturn : ∀ x ∈ s.expressions, '\r' ∉ x := by
      obtain ⟨t, ht⟩ := exists_sheet .universal s.text
      rw [← ht, textExpressions_text] at h
      have heq := List.map_injective_iff.2 (fun _ _ => String.ofList_injective) h
      exact fun x hx => (oneLine_universal_iff.1 (t.isExpression (heq ▸ hx)).oneLine).2
    have hinside : ∀ r ∈ s.allRows, ∀ x, r.listed = some x → '\r' ∉ x := fun r hr x hx =>
      hreturn x (List.mem_filterMap.2 ⟨r, hr, hx⟩)
    have hle : ∀ r ∈ s.allRows, (r.listed.toList.map String.ofList).length ≤
        (textExpressions .universal r.text).length := by
      intro r hr
      cases r with
      | expression before x after hbefore hx hafter =>
        have hwhole : (Row.expression before x after hbefore hx hafter).IsWhole :=
          hinside _ hr x rfl
        rw [Row.textExpressions_of_isWhole hwhole]
      | blank => exact Nat.zero_le _
      | comment => exact Nat.zero_le _
    rw [hlisted, textExpressions_rows] at h
    have hrows := eq_of_flatMap_eq hle h
    intro r hr
    cases r with
    | expression before x after hbefore hx hafter => exact hinside _ hr x rfl
    | blank => trivial
    | comment before text hbefore htext =>
      exact (textExpressions_comment hbefore.blank htext.lineFeed_notMem).1 (hrows _ hr)
  · intro h
    rw [hlisted, textExpressions_rows]
    exact List.flatMap_congr fun r hr => Row.textExpressions_of_isWhole (h r hr)

end Agreement

section Readers

variable {bytes : List UInt8} {xs : List (List Char)}

/-- The readers of plain text with these line ends find these expressions: standard input, and files
if line ends of all kinds count. -/
structure ReadAs (mode : LineMode) (bytes : List UInt8) (xs : List (List Char)) : Prop where
  file : mode = .universal → ∀ (read : FileReader) (path : String), read path = .ok bytes →
    loadFile read .text path = .ok (xs.map String.ofList)
  input : ∀ (env : Command.Environment) (o : Command.Options), o.source? = some .input →
    env.input = ⟨bytes, mode⟩ → Command.expressionsOf env o = .ok (xs.map String.ofList)

lemma readAs_iff (hdecode : decodeStream bytes = .ok text) :
    ReadAs mode bytes xs ↔ textExpressions mode text = xs.map String.ofList := by
  constructor
  · intro h
    let env : Command.Environment := ⟨⟨bytes, mode⟩, fun _ => .error .missing, .standard,
      ⟨none, none⟩, ⟨none, none⟩, fun _ _ => none⟩
    have hread : Command.expressionsOf env {} = .ok (textExpressions mode text) :=
      Command.expressionsOf_input rfl rfl hdecode
    exact Except.ok.inj (hread.symm.trans (h.input env {} rfl rfl))
  · refine fun htext => ⟨fun hmode read path hread => ?_, fun env o hsource hinput => ?_⟩
    · rw [loadFile_of_read hread]
      unfold Format.read
      dsimp only
      rw [readText, hdecode, ← htext, hmode]
      rfl
    · rw [Command.expressionsOf_input hsource hinput hdecode, htext]

/-- A carriage return by itself ends a line of a file. Where only line feeds count it is part of an
expression, so expressions on lines of their own are not read back, and no expressions are what both
readers find. -/
theorem lone_return_ends_no_line :
    let text := ['1', '\r', '2', '\n']
    (∃ s : Sheet .universal, s.text = text ∧ s.expressions = [['1'], ['2']] ∧
      ReadAs .universal (encode text) s.expressions ∧
      ¬ ReadAs .lineFeed (encode text) s.expressions) ∧
    ReadAs .lineFeed (encode text) [['1', '\r', '2']] ∧
    ¬ ∃ found, ∀ mode, ReadAs mode (encode text) found := by
  intro text
  have hone : IsExpression .universal ['1'] := by decide
  have htwo : IsExpression .universal ['2'] := by decide
  let s : Sheet .universal :=
    ⟨[(.expression [] _ [] isGap_nil hone isGap_nil, .carriageReturn),
      (.expression [] _ [] isGap_nil htwo isGap_nil, .lineFeed)], .blank [] isGap_nil⟩
  have hdecode : decodeStream (encode text) = .ok text := decodeStream_encode text
  have hfile : textExpressions .universal text = ["1", "2"] := textExpressions_text s
  have hinput : textExpressions .lineFeed text = ["1\r2"] := rfl
  have hdiffer : textExpressions .lineFeed text ≠ textExpressions .universal text := by
    rw [hfile, hinput]
    decide
  refine ⟨⟨s, rfl, rfl, (readAs_iff hdecode).2 hfile, fun h => ?_⟩, (readAs_iff hdecode).2 hinput,
    fun ⟨found, h⟩ => ?_⟩
  · exact hdiffer (((readAs_iff hdecode).1 h).trans hfile.symm)
  · exact hdiffer (((readAs_iff hdecode).1 (h .lineFeed)).trans
      ((readAs_iff hdecode).1 (h .universal)).symm)

/-- Whichever line ends count, expressions are read off any rows that list them. Every text that bytes
can be decoded to consists of rows, so what is read are expressions, and they are read again from
lines that list nothing else. Files, where all line ends count, and standard input that knows line
feeds only give the same expressions exactly if carriage returns separate nothing on its rows. -/
theorem plain_text_round_trip :
    (∀ (mode : LineMode) (s : Sheet mode), ReadAs mode (encode s.text) s.expressions) ∧
    (∀ (mode : LineMode) (xs : List (List Char)), (∀ x ∈ xs, IsExpression mode x) →
      ReadAs mode (encode (List.intercalate ['\n'] xs)) xs) ∧
    (∀ mode bytes text, decodeStream bytes = .ok text → ∃ s : Sheet mode, s.text = text ∧
      ReadAs mode bytes s.expressions ∧ (∀ x ∈ s.expressions, IsExpression mode x) ∧
      ReadAs mode (encode (List.intercalate ['\n'] s.expressions)) s.expressions) ∧
    ∀ bytes (s : Sheet .lineFeed), decodeStream bytes = .ok s.text →
      (ReadAs .universal bytes s.expressions ↔ ∀ r ∈ s.allRows, r.IsWhole) := by
  have hlines : ∀ (mode : LineMode) (xs : List (List Char)), (∀ x ∈ xs, IsExpression mode x) →
      ReadAs mode (encode (List.intercalate ['\n'] xs)) xs := fun mode xs h =>
    (readAs_iff (decodeStream_encode _)).2 (textExpressions_intercalate h)
  refine ⟨fun mode s => (readAs_iff (decodeStream_encode _)).2 (textExpressions_text s), hlines,
    fun mode bytes text hdecode => ?_, fun bytes s hdecode => ?_⟩
  · obtain ⟨s, rfl⟩ := exists_sheet mode text
    have hexpressions : ∀ x ∈ s.expressions, IsExpression mode x := fun x hx => s.isExpression hx
    exact ⟨s, rfl, (readAs_iff hdecode).2 (textExpressions_text s), hexpressions,
      hlines mode _ hexpressions⟩
  · rw [readAs_iff hdecode, textExpressions_universal_iff]

/-- An indented expression, a comment that ends in a carriage return, a line of its own for an em
space, and an expression that no line end follows. No carriage return separates anything here, so
files and standard input with line feeds only are read alike. -/
theorem plain_text_round_trip_mixed :
    let bytes : List UInt8 := [9, 49, 32, 50, 10, 32, 35, 13, 226, 128, 131, 13, 10, 43]
    let text := ['\t', '1', ' ', '2', '\n', ' ', '#', '\r', '\u2003', '\r', '\n', '+']
    (∀ x ∈ [['1', ' ', '2'], ['+']], IsExpression .universal x) ∧
    ReadAs .universal (encode ['1', ' ', '2', '\n', '+']) [['1', ' ', '2'], ['+']] ∧
    decodeStream bytes = .ok text ∧
    (∃ s : Sheet .universal, ReadAs .universal bytes s.expressions ∧
      s.expressions.map String.ofList = ["1 2", "+"]) ∧
    ∃ s : Sheet .lineFeed, s.text = text ∧ ReadAs .lineFeed bytes s.expressions ∧
      s.expressions.map String.ofList = ["1 2", "+"] ∧ ReadAs .universal bytes s.expressions ∧
      ∀ r ∈ s.allRows, r.IsWhole := by
  intro bytes text
  have hsum : IsExpression .universal ['1', ' ', '2'] := by decide
  have hsign : IsExpression .universal ['+'] := by decide
  have hexpressions : ∀ x ∈ [['1', ' ', '2'], ['+']], IsExpression .universal x :=
    List.forall_mem_cons.2 ⟨hsum, List.forall_mem_singleton.2 hsign⟩
  have hdecode : decodeStream bytes = .ok text := decodeStream_encode text
  obtain ⟨-, hlines, hsheets, hagree⟩ := plain_text_round_trip
  obtain ⟨s, htext, hread, -⟩ := hsheets .universal _ _ hdecode
  obtain ⟨t, httext, htread, -⟩ := hsheets .lineFeed _ _ hdecode
  have hlisted : s.expressions.map String.ofList = ["1 2", "+"] := by
    rw [← textExpressions_text, htext]
    rfl
  have htlisted : t.expressions.map String.ofList = ["1 2", "+"] := by
    rw [← textExpressions_text, httext]
    rfl
  have huniversal : ReadAs .universal bytes t.expressions := by
    rw [readAs_iff hdecode, htlisted, ← hlisted]
    exact (readAs_iff hdecode).1 hread
  have hwhole := (hagree bytes t (httext ▸ hdecode)).1 huniversal
  exact ⟨hexpressions, hlines .universal _ hexpressions, hdecode, ⟨s, hread, hlisted⟩, t, httext,
    htread, htlisted, huniversal, hwhole⟩

end Readers

end PostfixCalculator.Batch
