import PostfixCalculator.Text.Line
import Mathlib.Data.List.Basic
import Mathlib.Tactic

/-!
# Completed lines and the open line

A text is its completed lines followed by the line that is still open. This is the only way to
cut it into a part that is empty or ends with a line feed and a part without line feeds.
-/
namespace PostfixCalculator.Text

variable {text line whole : List Char}

/-- The text up to and with its last line feed. -/
def completed (text : List Char) : List Char :=
  (splitLines text).dropLast.flatMap (· ++ ['\n'])

/-- What follows the last line feed. -/
def openLine (text : List Char) : List Char := (splitLines text).getLastD []

/-- The text leaves no line open. -/
def EndsLine (text : List Char) : Prop := text = [] ∨ text.getLast? = some '\n'

instance (text : List Char) : Decidable (EndsLine text) := inferInstanceAs (Decidable (_ ∨ _))

lemma endsLine_append_newline (text : List Char) : EndsLine (text ++ ['\n']) := .inr (by simp)

lemma EndsLine.append (htext : EndsLine text) (hwhole : EndsLine whole) :
    EndsLine (text ++ whole) := by
  rcases hwhole with rfl | hlast
  · rwa [List.append_nil]
  · right
    rw [List.getLast?_append, hlast]
    rfl

lemma splitLines_newline (text : List Char) : splitLines ('\n' :: text) = [] :: splitLines text := by
  rw [splitLines]

lemma splitLines_cons {c : Char} (hc : c ≠ '\n') (text : List Char) :
    splitLines (c :: text) = (splitLines text).modifyHead (c :: ·) := by
  rw [splitLines]
  · cases ht : splitLines text with
    | nil => exact absurd ht (splitLines_ne_nil text)
    | cons first rest => rfl
  · exact hc

lemma splitLines_append (h : '\n' ∉ line) (text : List Char) :
    splitLines (line ++ text) = (splitLines text).modifyHead (line ++ ·) := by
  induction line with
  | nil => exact (congrFun List.modifyHead_id _).symm
  | cons c line ih =>
    obtain ⟨hc, hline⟩ := not_or.1 (mt List.mem_cons.2 h)
    rw [List.cons_append, splitLines_cons (Ne.symm hc), ih hline, List.modifyHead_modifyHead]
    rfl

lemma notMem_of_mem_splitLines (h : line ∈ splitLines text) : '\n' ∉ line := by
  induction text generalizing line with
  | nil =>
    rw [splitLines, List.mem_singleton] at h
    exact h ▸ List.not_mem_nil
  | cons c text ih =>
    by_cases hc : c = '\n'
    · subst hc
      rw [splitLines_newline] at h
      rcases List.mem_cons.1 h with rfl | h
      · exact List.not_mem_nil
      · exact ih h
    · rw [splitLines_cons hc] at h
      cases ht : splitLines text with
      | nil => exact absurd ht (splitLines_ne_nil text)
      | cons first rest =>
        rw [ht, List.modifyHead_cons] at h
        rcases List.mem_cons.1 h with rfl | h
        · have hfirst := ih (ht ▸ List.mem_cons_self)
          simpa [Ne.symm hc] using hfirst
        · exact ih (ht ▸ List.mem_cons_of_mem first h)

lemma splitLines_eq (text : List Char) :
    splitLines text = (splitLines text).dropLast ++ [openLine text] := by
  have hne := splitLines_ne_nil text
  rw [openLine, List.getLastD_eq_getLast?, List.getLast?_eq_some_getLast hne, Option.getD_some,
    List.dropLast_append_getLast hne]

lemma notMem_openLine (text : List Char) : '\n' ∉ openLine text := by
  have hmem : openLine text ∈ splitLines text := by
    rw [splitLines_eq]
    exact List.mem_append_right _ List.mem_cons_self
  exact notMem_of_mem_splitLines hmem

lemma endsLine_completed (text : List Char) : EndsLine (completed text) := by
  unfold completed
  generalize (splitLines text).dropLast = lines
  induction lines with
  | nil => exact .inl rfl
  | cons line lines ih => exact (endsLine_append_newline line).append ih

lemma completed_openLine_newline (text : List Char) :
    completed ('\n' :: text) = '\n' :: completed text ∧ openLine ('\n' :: text) = openLine text := by
  have hsplit := splitLines_newline text
  rw [splitLines_eq text, ← List.cons_append] at hsplit
  rw [completed, openLine, hsplit, List.dropLast_concat, List.getLastD_concat]
  exact ⟨rfl, rfl⟩

theorem completed_append_openLine (text : List Char) : completed text ++ openLine text = text := by
  induction text with
  | nil => rfl
  | cons c text ih =>
    by_cases hc : c = '\n'
    · subst hc
      obtain ⟨hcompleted, hopen⟩ := completed_openLine_newline text
      rw [hcompleted, hopen, List.cons_append, ih]
    · have hsplit := splitLines_cons hc text
      rw [splitLines_eq text] at hsplit
      unfold completed at ih ⊢
      rw [openLine, hsplit]
      cases hlines : (splitLines text).dropLast with
      | nil =>
        rw [hlines] at ih
        simpa using ih
      | cons first rest =>
        rw [hlines] at ih
        rw [List.cons_append, List.modifyHead_cons, ← List.cons_append, List.dropLast_concat,
          List.getLastD_concat]
        simpa using ih

lemma EndsLine.eq_nil (h : EndsLine (whole ++ line)) (hline : '\n' ∉ line) : line = [] := by
  rcases line.eq_nil_or_concat' with rfl | ⟨init, c, rfl⟩
  · rfl
  · have hlast : (whole ++ (init ++ [c])).getLast? = some c := by simp
    rcases h with hnil | hnewline
    · simp at hnil
    · rw [hlast, Option.some.injEq] at hnewline
      exact absurd (List.mem_append_right init (hnewline ▸ List.mem_cons_self)) hline

theorem completed_openLine_append (hwhole : EndsLine whole) (hline : '\n' ∉ line) :
    completed (whole ++ line) = whole ∧ openLine (whole ++ line) = line := by
  have hcut := completed_append_openLine (whole ++ line)
  -- what lies between two such cuts is without line feeds and ends with one
  rcases List.append_eq_append_iff.1 hcut with ⟨middle, hleft, hright⟩ | ⟨middle, hleft, hright⟩
  · rw [hleft] at hwhole
    have hmiddle : middle = [] :=
      hwhole.eq_nil fun h => notMem_openLine _ (hright ▸ List.mem_append_left _ h)
    subst hmiddle
    rw [List.append_nil] at hleft
    exact ⟨hleft.symm, hright⟩
  · have hcompleted := hleft ▸ endsLine_completed (whole ++ line)
    have hmiddle : middle = [] :=
      hcompleted.eq_nil fun h => hline (hright ▸ List.mem_append_left _ h)
    subst hmiddle
    rw [List.append_nil] at hleft
    exact ⟨hleft, hright.symm⟩

/-- Nothing longer leaves no line open. -/
theorem prefix_completed (hstart : whole <+: text) (hwhole : EndsLine whole) :
    whole <+: completed text := by
  obtain ⟨rest, rfl⟩ := hstart
  have hends := hwhole.append (endsLine_completed rest)
  have hcut := (completed_openLine_append hends (notMem_openLine rest)).1
  rw [List.append_assoc, completed_append_openLine] at hcut
  rw [hcut]
  exact List.prefix_append whole (completed rest)

lemma openLine_eq_nil_iff : openLine text = [] ↔ EndsLine text := by
  constructor
  · intro h
    rw [← completed_append_openLine text, h, List.append_nil]
    exact endsLine_completed text
  · intro h
    have hcut := completed_openLine_append h List.not_mem_nil
    rw [List.append_nil] at hcut
    exact hcut.2

end PostfixCalculator.Text
