import PostfixCalculator.Terminal.Printer
import PostfixCalculator.Proofs.Text.Lines
import Mathlib.Data.List.DropRight

/-!
# What a writer sends

A writer that completes lines has sent the completed lines of all texts written to it, and keeps
the open line. Closing it ends the open line. An empty text counts as an open line until the next
line feed or flush, so closing may also send a line feed that ends nothing.
-/
namespace PostfixCalculator.Terminal

open Text

namespace Writer

variable {w : Writer} {text : List Char}

/-- All text that the writer was given, sent or kept. -/
def given (w : Writer) : List Char := w.output ++ w.pendingText

/-- A raw writer keeps nothing. Any other writer has sent whole lines and keeps a part of one. -/
structure Orderly (w : Writer) : Prop where
  raw : w.raw = true → w.pending = none
  sent : w.raw = false → EndsLine w.output
  kept : '\n' ∉ w.pendingText

lemma orderly_start (raw : Bool) : ({ raw := raw } : Writer).Orderly :=
  ⟨fun _ => rfl, fun _ => .inl rfl, List.not_mem_nil⟩

lemma Orderly.withDepth (h : w.Orderly) (depth : ℕ) : { w with depth := depth }.Orderly :=
  ⟨h.raw, h.sent, h.kept⟩

lemma Orderly.output_eq (h : w.Orderly) (hraw : w.raw = false) :
    w.output = completed w.given ∧ w.pendingText = openLine w.given := by
  obtain ⟨hcompleted, hopen⟩ := completed_openLine_append (h.sent hraw) h.kept
  exact ⟨hcompleted.symm, hopen.symm⟩

lemma pendingText_of_none (h : w.pending = none) : w.pendingText = [] := by rw [pendingText, h]; rfl

lemma given_of_none (h : w.pending = none) : w.given = w.output := by
  rw [given, pendingText_of_none h, List.append_nil]

lemma output_send (w : Writer) (text : List Char) :
    { w with sent := w.sent ++ [text] }.output = w.output ++ text := by
  rw [output, List.flatten_append, List.flatten_singleton]
  rfl

lemma output_sendLines (w : Writer) (lines : List (List Char)) :
    (w.sendLines lines).output = w.output ++ lines.flatMap (· ++ ['\n']) := by
  rw [output, sendLines, List.flatten_append]
  congr 1
  induction lines with
  | nil => rfl
  | cons line lines ih =>
    rw [List.flatMap_cons, List.flatten_append, ih, List.flatMap_cons]
    simp

lemma output_settle (w : Writer) (text : List Char) :
    (w.settle text).output = w.output ++ completed text := w.output_sendLines _

lemma pendingText_settle (w : Writer) (text : List Char) :
    (w.settle text).pendingText = openLine text := by
  change (if (openLine text).isEmpty then none else some (openLine text)).getD [] = openLine text
  cases openLine text <;> rfl

lemma pending_settle (w : Writer) (text : List Char) :
    (w.settle text).pending = none ↔ (w.settle text).pendingText = [] := by
  rw [pendingText_settle]
  change (if (openLine text).isEmpty then none else some (openLine text)) = none ↔ _
  cases openLine text <;> simp

lemma given_settle (w : Writer) (text : List Char) : (w.settle text).given = w.output ++ text := by
  rw [given, output_settle, pendingText_settle, List.append_assoc, completed_append_openLine]

lemma Orderly.settle (h : w.Orderly) (hraw : w.raw = false) (text : List Char) :
    (w.settle text).Orderly where
  raw htrue := absurd (hraw.symm.trans htrue) Bool.false_ne_true
  sent _ := w.output_settle text ▸ (h.sent hraw).append (endsLine_completed text)
  kept := w.pendingText_settle text ▸ notMem_openLine text

lemma write_raw (hraw : w.raw = true) : w.write text = { w with sent := w.sent ++ [text] } := by
  rw [write, if_pos hraw]

lemma write_line (hraw : w.raw = false) (h : '\n' ∈ text) :
    w.write text = w.settle (w.pendingText ++ text) := by
  rw [write, if_neg (by simp [hraw]), if_pos (List.contains_iff_mem.2 h)]

lemma write_part (hraw : w.raw = false) (h : '\n' ∉ text) :
    w.write text = { w with pending := some (w.pendingText ++ text) } := by
  rw [write, if_neg (by simp [hraw]), if_neg (by simpa using h)]

theorem Orderly.write (h : w.Orderly) (text : List Char) :
    (w.write text).Orderly ∧ (w.write text).given = w.given ++ text := by
  cases hraw : w.raw with
  | true =>
    have hnone := h.raw hraw
    rw [write_raw hraw]
    refine ⟨⟨fun _ => hnone, fun hfalse => absurd (hfalse.symm.trans hraw) Bool.false_ne_true,
      h.kept⟩, ?_⟩
    rw [given_of_none (w := w) hnone, given_of_none (by exact hnone), output_send]
  | false =>
    by_cases hline : '\n' ∈ text
    · rw [write_line hraw hline, given_settle, given, List.append_assoc]
      exact ⟨h.settle hraw _, rfl⟩
    · rw [write_part hraw hline, given, given, List.append_assoc]
      refine ⟨⟨fun htrue => absurd (hraw.symm.trans htrue) Bool.false_ne_true, h.sent, ?_⟩, rfl⟩
      exact fun hmem => (List.mem_append.1 hmem).elim h.kept hline

lemma flush_of_none (h : w.pending = none) (final : Bool) : w.flush final = w := by
  rw [flush, h]

lemma flush_of_some {line : List Char} (h : w.pending = some line) (final : Bool) :
    w.flush final = w.settle (if final then line ++ ['\n'] else line) := by
  rw [flush, h]

lemma flush_false (w : Writer) : w.flush false = w.settle w.pendingText := by
  cases hline : w.pending with
  | some line => rw [flush_of_some hline, pendingText, hline]; rfl
  | none =>
    rw [flush_of_none hline, pendingText_of_none hline]
    obtain ⟨raw, sent, pending, depth⟩ := w
    cases hline
    simp [Writer.settle, sendLines, splitLines]

lemma Orderly.raw_of_some {line : List Char} (h : w.Orderly) (hline : w.pending = some line) :
    w.raw = false := by
  cases hraw : w.raw with
  | false => rfl
  | true => cases (h.raw hraw).symm.trans hline

theorem Orderly.flush (h : w.Orderly) (final : Bool) :
    (w.flush final).Orderly ∧
      (w.flush final).given = w.given ++ if final ∧ w.pending.isSome then ['\n'] else [] := by
  cases hline : w.pending with
  | none =>
    rw [flush_of_none hline]
    exact ⟨h, by simp⟩
  | some line =>
    rw [flush_of_some hline, given_settle, given, pendingText, hline]
    exact ⟨h.settle (h.raw_of_some hline) _, by cases final <;> simp⟩

lemma pending_close (w : Writer) : w.close.pending = none := by
  cases hline : w.pending with
  | none => rw [close, flush_of_none hline, hline]
  | some line =>
    rw [close, flush_of_some hline, pending_settle, pendingText_settle]
    have hcut := completed_openLine_append (endsLine_append_newline line) List.not_mem_nil
    rw [List.append_nil] at hcut
    exact hcut.2

lemma output_close (h : w.Orderly) :
    w.close.output = w.given ++ if w.pending.isSome then ['\n'] else [] := by
  rw [← given_of_none (pending_close w), close, (h.flush true).2]
  simp

lemma close_close (w : Writer) : w.close.close = w.close := flush_of_none (pending_close w) true

end Writer

/-- What is asked of a writer before it is closed. -/
inductive Call where
  | write (text : List Char)
  | newline
  | flush
  deriving DecidableEq, Repr

namespace Call

def text : Call → List Char
  | write text => text
  | newline => ['\n']
  | flush => []

/-- The call ends no line and sends nothing that is kept. -/
def keeps : Call → Bool
  | write text => !text.contains '\n'
  | newline => false
  | flush => false

end Call

def written (calls : List Call) : List Char := calls.flatMap Call.text

/-- An empty text was written since the last line feed or flush. -/
def Lingers (calls : List Call) : Prop := .write [] ∈ calls.rtakeWhile Call.keeps

instance (calls : List Call) : Decidable (Lingers calls) :=
  inferInstanceAs (Decidable (_ ∈ calls.rtakeWhile Call.keeps))

namespace Writer

variable {w : Writer} {calls : List Call}

def call (w : Writer) : Call → Writer
  | .write text => w.write text
  | .newline => w.write ['\n']
  | .flush => w.flush false

def run (w : Writer) (calls : List Call) : Writer := calls.foldl call w

lemma run_append_singleton (w : Writer) (calls : List Call) (c : Call) :
    w.run (calls ++ [c]) = (w.run calls).call c := by
  rw [run, List.foldl_append]
  rfl

lemma Orderly.call (h : w.Orderly) (c : Call) :
    (w.call c).Orderly ∧ (w.call c).given = w.given ++ c.text := by
  cases c with
  | write text => exact h.write text
  | newline => exact h.write ['\n']
  | flush =>
    obtain ⟨hflush, hgiven⟩ := h.flush false
    exact ⟨hflush, hgiven.trans (by simp [Call.text])⟩

theorem Orderly.run (h : w.Orderly) (calls : List Call) :
    (w.run calls).Orderly ∧ (w.run calls).given = w.given ++ written calls := by
  induction calls generalizing w with
  | nil => exact ⟨h, (List.append_nil _).symm⟩
  | cons c calls ih =>
    obtain ⟨hcall, hgiven⟩ := h.call c
    obtain ⟨hrun, hall⟩ := ih hcall
    refine ⟨hrun, hall.trans ?_⟩
    rw [hgiven, List.append_assoc]
    rfl

lemma frame_write (w : Writer) (text : List Char) :
    (w.write text).raw = w.raw ∧ (w.write text).depth = w.depth := by
  unfold Writer.write
  split
  · exact ⟨rfl, rfl⟩
  · split <;> exact ⟨rfl, rfl⟩

lemma frame_flush (w : Writer) (final : Bool) :
    (w.flush final).raw = w.raw ∧ (w.flush final).depth = w.depth := by
  unfold Writer.flush
  split <;> exact ⟨rfl, rfl⟩

lemma frame_call (w : Writer) (c : Call) : (w.call c).raw = w.raw ∧ (w.call c).depth = w.depth := by
  cases c with
  | write text => exact w.frame_write text
  | newline => exact w.frame_write ['\n']
  | flush => exact w.frame_flush false

lemma frame_run (w : Writer) (calls : List Call) :
    (w.run calls).raw = w.raw ∧ (w.run calls).depth = w.depth := by
  induction calls generalizing w with
  | nil => exact ⟨rfl, rfl⟩
  | cons c calls ih =>
    obtain ⟨hraw, hdepth⟩ := w.frame_call c
    obtain ⟨hraw', hdepth'⟩ := ih (w.call c)
    exact ⟨hraw'.trans hraw, hdepth'.trans hdepth⟩

lemma write_enter (w : Writer) (text : List Char) : w.enter.write text = (w.write text).enter := by
  cases hraw : w.raw with
  | true =>
    rw [write_raw hraw, write_raw (w := w.enter) hraw]
    rfl
  | false =>
    by_cases hline : '\n' ∈ text
    · rw [write_line hraw hline, write_line (w := w.enter) hraw hline]
      rfl
    · rw [write_part hraw hline, write_part (w := w.enter) hraw hline]
      rfl

lemma flush_enter (w : Writer) (final : Bool) : w.enter.flush final = (w.flush final).enter := by
  cases hline : w.pending with
  | none => rw [flush_of_none hline, flush_of_none (w := w.enter) hline]
  | some line =>
    rw [flush_of_some hline, flush_of_some (w := w.enter) hline]
    rfl

lemma run_enter (w : Writer) (calls : List Call) : w.enter.run calls = (w.run calls).enter := by
  induction calls generalizing w with
  | nil => rfl
  | cons c calls ih =>
    have hcall : w.enter.call c = (w.call c).enter := by
      cases c with
      | write text => exact w.write_enter text
      | newline => exact w.write_enter ['\n']
      | flush => exact w.flush_enter false
    exact (congrArg (run · calls) hcall).trans (ih (w.call c))

lemma leave_last (h : w.depth ≤ 1) : w.leave = { w with depth := w.depth - 1 }.flush true :=
  if_pos (by simpa using Nat.sub_eq_zero_of_le h)

lemma leave_inner (h : ¬ w.depth ≤ 1) : w.leave = { w with depth := w.depth - 1 } :=
  if_neg (by simp only [beq_iff_eq]; omega)

lemma raw_leave (w : Writer) : w.leave.raw = w.raw := by
  by_cases hlast : w.depth ≤ 1
  · rw [leave_last hlast, (frame_flush _ true).1]
  · rw [leave_inner hlast]

lemma leave_enter (h : w.depth = 0) : w.enter.leave = w.close := by
  rw [leave_last (by simp [enter, h])]
  rfl

lemma lingers_concat {c : Call} :
    Lingers (calls ++ [c]) ↔ c.keeps = true ∧ (Lingers calls ∨ c = .write []) := by
  rw [Lingers, List.rtakeWhile_concat]
  split
  · next hkeeps => simp [hkeeps, Lingers, eq_comm]
  · next hkeeps => simp [hkeeps]

lemma pending_write (hraw : w.raw = false) (text : List Char) :
    (w.write text).pending = none ↔ (w.write text).pendingText = [] ∧ '\n' ∈ text := by
  by_cases hline : '\n' ∈ text
  · rw [write_line hraw hline, pending_settle]
    exact ⟨fun h => ⟨h, hline⟩, And.left⟩
  · rw [write_part hraw hline]
    simp [hline]

/-- Something is kept if a line is open, or if nothing but empty texts came since the last line
feed or flush. -/
theorem pending_run (hraw : w.raw = false) (hnone : w.pending = none) (calls : List Call) :
    (w.run calls).pending = none ↔ (w.run calls).pendingText = [] ∧ ¬ Lingers calls := by
  -- whatever was kept before, the last call decides
  rcases calls.eq_nil_or_concat' with rfl | ⟨calls, c, rfl⟩
  · exact ⟨fun h => ⟨pendingText_of_none h, by decide⟩, fun _ => hnone⟩
  · have hraw' : (w.run calls).raw = false := (w.frame_run calls).1.trans hraw
    rw [run_append_singleton, lingers_concat]
    cases c with
    | write text =>
      refine (pending_write hraw' text).trans (and_congr_right fun hkept => ?_)
      by_cases hline : '\n' ∈ text
      · simp [Call.keeps, hline]
      · change ((w.run calls).write text).pendingText = [] at hkept
        rw [write_part hraw' hline] at hkept
        have htext : text = [] := (List.append_eq_nil_iff.1 hkept).2
        simp [Call.keeps, htext]
    | newline =>
      refine (pending_write hraw' ['\n']).trans (and_congr_right fun _ => ?_)
      simp [Call.keeps]
    | flush =>
      rw [Writer.call, flush_false, pending_settle]
      simp [Call.keeps]

end Writer

namespace Printer

def call (p : Printer) : Call → Printer
  | .write text => p.write text
  | .newline => p.newline
  | .flush => p.flush false

def run (p : Printer) (calls : List Call) : Printer := calls.foldl call p

lemma writer_run (p : Printer) (calls : List Call) : (p.run calls).writer = p.writer.run calls := by
  induction calls generalizing p with
  | nil => rfl
  | cons c calls ih =>
    have hcall : (p.call c).writer = p.writer.call c := by cases c <;> rfl
    exact (ih (p.call c)).trans (congrArg (Writer.run · calls) hcall)

end Printer

open Writer

/-- A raw writer has sent what was written when it is closed. Any other writer has ended the open
line as well; and it has sent a line feed too many if an empty text was written since the last line
feed or flush. Closing again sends nothing, and leaving the writer first makes no difference. -/
theorem output_close_run (calls : List Call) :
    (({ raw := true } : Writer).run calls).close.output = written calls ∧
    (({ raw := false } : Writer).run calls).close.output =
      (if EndsLine (written calls) ∧ ¬ Lingers calls then written calls
        else written calls ++ ['\n']) ∧
    (∀ w : Writer, w.close.close = w.close) ∧
    (∀ raw, (({ raw := raw } : Writer).enter.run calls).leave.close =
      (({ raw := raw } : Writer).run calls).close) ∧
    ∀ p : Printer, (p.run calls).close.writer = (p.writer.run calls).close ∧
      (((p.enter .whole).1.run calls).leave (p.enter .whole).2).close.writer =
        (p.writer.enter.run calls).leave.close := by
  have hout : ∀ raw, (({ raw := raw } : Writer).run calls).close.output =
      written calls ++ if (({ raw := raw } : Writer).run calls).pending.isSome then ['\n'] else [] := by
    intro raw
    obtain ⟨horderly, hgiven⟩ := (orderly_start raw).run calls
    rw [output_close horderly, hgiven]
    rfl
  refine ⟨?_, ?_, close_close, fun raw => ?_, fun p => ⟨?_, ?_⟩⟩
  · obtain ⟨horderly, -⟩ := (orderly_start true).run calls
    rw [hout, horderly.raw (frame_run _ calls).1]
    exact List.append_nil _
  · obtain ⟨horderly, hgiven⟩ := (orderly_start false).run calls
    change _ = written calls at hgiven
    have hkept : (({ raw := false } : Writer).run calls).pending = none ↔
        EndsLine (written calls) ∧ ¬ Lingers calls := by
      rw [pending_run rfl rfl, (horderly.output_eq (frame_run _ calls).1).2, hgiven,
        openLine_eq_nil_iff]
    rw [hout]
    split
    · next hsome => rw [if_neg fun h => by simp [hkept.2 h] at hsome]
    · next hnone =>
      rw [if_pos (hkept.1 (by simpa using hnone)), List.append_nil]
  · rw [run_enter, leave_enter (frame_run _ calls).2, close_close]
  · exact congrArg Writer.close (p.writer_run calls)
  · exact congrArg (fun w => w.leave.close) ((p.enter .whole).1.writer_run calls)

/-- Nothing but an empty text was written, and closing sends a line feed. -/
theorem output_close_empty_text :
    written [.write []] = [] ∧ (({ raw := false } : Writer).run [.write []]).close.output = ['\n'] := by
  decide

end PostfixCalculator.Terminal
