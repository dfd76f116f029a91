import PostfixCalculator.Proofs.Plain
import PostfixCalculator.Proofs.Terminal.Weaving

/-!
# Printing results

Between two results a printer has sent everything that it was given, and has no colour or style to
restore. Printing a result sends one more text and leaves the printer in such a state again. The text
is the same from every such printer, but for the codes of one with colours.
-/
namespace PostfixCalculator.Terminal

open Text

lemma written_append (calls calls' : List Call) :
    written (calls ++ calls') = written calls ++ written calls' := List.flatMap_append

namespace Writer

variable {w : Writer} {calls : List Call}

lemma sent_prefix_write (w : Writer) (text : List Char) : w.sent <+: (w.write text).sent := by
  unfold Writer.write
  split_ifs
  · exact List.prefix_append _ _
  · exact List.prefix_append _ _
  · exact List.prefix_rfl

lemma sent_prefix_flush (w : Writer) (final : Bool) : w.sent <+: (w.flush final).sent := by
  unfold Writer.flush
  split
  · exact List.prefix_rfl
  · exact List.prefix_append _ _

lemma sent_prefix_run (w : Writer) (calls : List Call) : w.sent <+: (w.run calls).sent := by
  induction calls generalizing w with
  | nil => exact List.prefix_rfl
  | cons c calls ih =>
    have hcall : w.sent <+: (w.call c).sent := by
      cases c with
      | write text => exact w.sent_prefix_write text
      | newline => exact w.sent_prefix_write ['\n']
      | flush => exact w.sent_prefix_flush false
    exact hcall.trans (ih (w.call c))

/-- Calls that end with a line feed are sent as a whole. -/
theorem Orderly.run_newline (h : w.Orderly) (hnone : w.pending = none) (calls : List Call) :
    (w.run (calls ++ [.newline])).Orderly ∧ (w.run (calls ++ [.newline])).pending = none ∧
      (w.run (calls ++ [.newline])).output = w.output ++ (written calls ++ ['\n']) := by
  obtain ⟨horderly, hgiven⟩ := h.run (calls ++ [.newline])
  have hwritten : written (calls ++ [.newline]) = written calls ++ ['\n'] := written_append ..
  rw [given_of_none hnone, hwritten] at hgiven
  have hsettled : (w.run (calls ++ [.newline])).pending = none := by
    cases hraw : w.raw with
    | true => exact horderly.raw ((w.frame_run _).1.trans hraw)
    | false =>
      have hline : EndsLine (w.output ++ (written calls ++ ['\n'])) :=
        List.append_assoc .. ▸ endsLine_append_newline _
      have hopen := (horderly.output_eq ((w.frame_run _).1.trans hraw)).2
      rw [hgiven, openLine_eq_nil_iff.2 hline] at hopen
      refine (pending_run hraw hnone _).2 ⟨hopen, fun hlingers => ?_⟩
      exact Bool.false_ne_true (lingers_concat.1 hlingers).1
  exact ⟨horderly, hsettled, (given_of_none hsettled).symm.trans hgiven⟩

end Writer

def Code.call (c : Code) : Call := .write c.chars

namespace Printer

variable {p : Printer} {paints : List Paint} {text : List Char}

/-- The terminal is as the printer takes it to be, everything has been sent, and there is no colour
or style to restore. -/
structure Idle (p : Printer) : Prop where
  knows : p.Knows
  held : p.writer.pending = none
  current : p.current = (none, false)

lemma idle_onStream (stream : Stream) (wish : Option Bool) (quiet : Bool) :
    (onStream stream wish quiet).Idle :=
  ⟨⟨Writer.orderly_start _, rfl, rfl⟩, rfl, rfl⟩

lemma Idle.enter (h : p.Idle) : (p.enter .whole).1.Idle := ⟨h.knows.enter .whole, h.held, h.current⟩

/-- The terminal has its default pen. -/
lemma Idle.display_output (h : p.Idle) :
    (display p.writer.output).mode = .text ∧ (display p.writer.output).pen = {} := by
  obtain ⟨hfore, hbright⟩ := Prod.mk.inj h.current
  have hpen : p.pen = {} := by rw [pen, hfore, hbright]; rfl
  rw [← Writer.given_of_none h.held]
  exact ⟨h.knows.mode, h.knows.pen.trans hpen⟩

/-- Leaving and closing a printer that has sent everything sends nothing. -/
lemma sent_close_leave {e : Entered} (hscope : e.scope = .whole) (h : p.writer.pending = none) :
    (p.leave e).close.writer.sent = p.writer.sent := by
  have hflush : { p.writer with depth := p.writer.depth - 1 }.flush true =
      { p.writer with depth := p.writer.depth - 1 } := Writer.flush_of_none (by exact h) true
  have hleft : p.writer.leave = { p.writer with depth := p.writer.depth - 1 } := by
    by_cases hlast : p.writer.depth ≤ 1
    · rw [Writer.leave_last hlast, hflush]
    · exact Writer.leave_inner hlast
  have hsent := congrArg Writer.sent hflush
  rw [leave_whole hscope, close, hleft]
  exact hsent

lemma run_eq (p : Printer) (calls : List Call) :
    p.run calls = { p with writer := p.writer.run calls } := by
  induction calls generalizing p with
  | nil => rfl
  | cons c calls ih =>
    have hcall : p.call c = { p with writer := p.writer.call c } := by cases c <;> rfl
    exact (ih (p.call c)).trans (by rw [hcall]; rfl)

lemma sendCodes_eq_run (p : Printer) (codes : List Code) :
    p.sendCodes codes = p.run (codes.map Code.call) := by
  rw [sendCodes, run, List.foldl_map]
  rfl

lemma run_append (p : Printer) (calls calls' : List Call) :
    p.run (calls ++ calls') = (p.run calls).run calls' := List.foldl_append

/-- What is asked of the writer for a text in a scope, if there is nothing to restore after it. -/
def scopeCalls (scope : Scope) (text : List Char) : List Call :=
  match scope with
  | .painted fore bright =>
    (startCodes fore bright).map Code.call ++
      .write text :: (endCodes ⟨scope, none, false⟩ fore bright).map Code.call
  | _ => [.write text]

lemma writeIn_eq_run (hcurrent : p.current = (none, false)) (hpaints : paints ≠ []) :
    p.writeIn paints text = p.run (scopeCalls (p.scope paints) text) := by
  obtain ⟨writer, colored, fore, bright⟩ := p
  obtain ⟨rfl, rfl⟩ := Prod.mk.inj hcurrent
  unfold writeIn
  cases colored with
  | false =>
    rw [scope_plain rfl hpaints]
    rfl
  | true =>
    obtain ⟨fore, bright, hscope⟩ := scope_colored (p := ⟨writer, true, none, false⟩) rfl hpaints
    rw [hscope, scopeCalls, run_append, run_eq, run_eq]
    simp only [enter, leave, sendCodes_eq_run, run_eq]
    rfl

lemma Knows.writeIn (h : p.Knows) (paints : List Paint) (htext : IsPlain text) :
    (p.writeIn paints text).Knows := by
  have hinside : ((p.enter (p.scope paints)).1.write text).Knows := (h.enter _).write htext
  exact hinside.leave (p.current_enter (p.scope paints)).1

end Printer

/-- A text in the scope that a printer without and one with colours make for it. -/
def painted (colored : Bool) (paints : List Paint) (text : List Char) : List Char :=
  if colored then
    written (Printer.scopeCalls (paints.foldl Scope.add (.painted none false)) text)
  else text

lemma weave_painted (paints : List Paint) {text : List Char} (h : IsPlain text) :
    Weave (painted true paints text) text := by
  have hcodes : ∀ codes : List Code, Weave (written (codes.map Code.call)) [] := by
    intro codes
    induction codes with
    | nil => exact .nil
    | cons code codes ih => exact .code code ih
  obtain ⟨fore, bright, hscope⟩ := Scope.exists_painted none false paints
  rw [painted, if_pos rfl, hscope, Printer.scopeCalls, written_append]
  have hend := hcodes (Printer.endCodes ⟨.painted fore bright, none, false⟩ fore bright)
  have htext := (Weave.ofPlain h).append hend
  rw [List.append_nil] at htext
  exact (hcodes (Printer.startCodes fore bright)).append htext

end PostfixCalculator.Terminal

namespace PostfixCalculator.Batch

open Terminal

variable {p : Printer} {text result : String}

/-- A text and how it is painted. -/
structure Segment where
  paints : List Paint
  text : List Char

namespace Segment

def IsPlain (s : Segment) : Prop := s.paints ≠ [] ∧ PostfixCalculator.IsPlain s.text

def printed (colored : Bool) (s : Segment) : List Char := painted colored s.paints s.text

def calls (p : Printer) (s : Segment) : List Call := Printer.scopeCalls (p.scope s.paints) s.text

lemma written_calls {s : Segment} (h : s.paints ≠ []) (p : Printer) :
    written (s.calls p) = s.printed p.colored := by
  unfold calls printed painted
  cases hcolored : p.colored with
  | false =>
    rw [Printer.scope_plain hcolored h]
    exact List.append_nil s.text
  | true =>
    rw [Printer.scope, if_neg (by simpa using h), if_pos hcolored]
    rfl

end Segment

def printAll (p : Printer) (segments : List Segment) : Printer :=
  segments.foldl (fun p s => p.writeIn s.paints s.text) p

lemma printAll_eq_run (hcurrent : p.current = (none, false)) {segments : List Segment}
    (h : ∀ s ∈ segments, s.IsPlain) :
    printAll p segments = p.run (segments.flatMap (Segment.calls p)) := by
  induction segments generalizing p with
  | nil => rfl
  | cons s segments ih =>
    obtain ⟨⟨hs, -⟩, hsegments⟩ := List.forall_mem_cons.1 h
    have hfirst : p.writeIn s.paints s.text = p.run (s.calls p) :=
      Printer.writeIn_eq_run hcurrent hs
    have hcalls : ∀ calls, Segment.calls (p.run calls) = Segment.calls p := by
      intro calls
      rw [Printer.run_eq]
      rfl
    have hsame : (p.run (s.calls p)).current = (none, false) := by
      rw [Printer.run_eq]
      exact hcurrent
    change printAll (p.writeIn s.paints s.text) segments = _
    rw [hfirst, ih hsame hsegments, hcalls, List.flatMap_cons, Printer.run_append]

lemma knows_printAll (hknows : p.Knows) {segments : List Segment}
    (h : ∀ s ∈ segments, s.IsPlain) : (printAll p segments).Knows := by
  induction segments generalizing p with
  | nil => exact hknows
  | cons s segments ih =>
    obtain ⟨⟨-, hs⟩, hsegments⟩ := List.forall_mem_cons.1 h
    exact ih (hknows.writeIn s.paints hs) hsegments

def resultPaints (result : String) : List Paint :=
  if isSpecial result then [.color (.shade .yellow false)]
  else [.bright, .color (.shade .green false)]

lemma resultPaints_ne_nil (result : String) : resultPaints result ≠ [] := by
  unfold resultPaints
  split_ifs <;> simp

/-- What stands on the line of a result. -/
def segments (settings : Settings) (text result : String) : List Segment :=
  (if settings.showExpression then
      [⟨[.color (.shade .cyan false)], text.toList⟩,
        ⟨[.bright, .color (.shade .white false)], [' ', '=', ' ']⟩]
    else []) ++
    [⟨resultPaints result, result.toList⟩]

/-- The line of a result. -/
def printed (settings : Settings) (colored : Bool) (text result : String) : List Char :=
  (segments settings text result).flatMap (Segment.printed colored) ++ ['\n']

lemma printResult_eq (settings : Settings) (text result : String) (p : Printer) :
    printResult settings text result p = (printAll p (segments settings text result)).newline := by
  unfold printResult segments resultPaints
  split_ifs <;> rfl

lemma isPlain_segments (settings : Settings) (htext : IsPlain text.toList) (hresult : IsPlain result.toList) :
    ∀ s ∈ segments settings text result, s.IsPlain := by
  unfold segments
  refine List.forall_mem_append.2
    ⟨?_, List.forall_mem_singleton.2 ⟨resultPaints_ne_nil result, hresult⟩⟩
  split_ifs
  · refine List.forall_mem_cons.2 ⟨⟨by simp, htext⟩, List.forall_mem_singleton.2 ⟨by simp, ?_⟩⟩
    exact (by decide : IsPlain [' ', '=', ' '])
  · simp

/-- Printing a result sends its line and nothing else. -/
theorem printResult_of_idle (h : p.Idle) (settings : Settings) (htext : IsPlain text.toList)
    (hresult : IsPlain result.toList) :
    (printResult settings text result p).Idle ∧
      (printResult settings text result p).colored = p.colored ∧
      p.writer.sent <+: (printResult settings text result p).writer.sent ∧
      (printResult settings text result p).writer.output =
        p.writer.output ++ printed settings p.colored text result := by
  have hplain := isPlain_segments settings htext hresult
  have hknows : (printResult settings text result p).Knows := by
    rw [printResult_eq]
    exact (knows_printAll h.knows hplain).write (by decide : '\x1b' ∉ ['\n'])
  have hrun : printResult settings text result p =
      p.run ((segments settings text result).flatMap (Segment.calls p) ++ [.newline]) := by
    rw [printResult_eq, printAll_eq_run h.current hplain, Printer.run_append]
    rfl
  have hwritten : written ((segments settings text result).flatMap (Segment.calls p)) =
      (segments settings text result).flatMap (Segment.printed p.colored) := by
    rw [written, List.flatMap_assoc]
    exact List.flatMap_congr fun s hs => Segment.written_calls (hplain s hs).1 p
  obtain ⟨-, hheld, houtput⟩ := h.knows.orderly.run_newline h.held
    ((segments settings text result).flatMap (Segment.calls p))
  rw [hwritten] at houtput
  rw [hrun, Printer.run_eq] at hknows ⊢
  exact ⟨⟨hknows, hheld, h.current⟩, rfl, p.writer.sent_prefix_run _, houtput⟩

/-- Without its codes a line is the same with colours and without. -/
theorem weave_printed (settings : Settings) (htext : IsPlain text.toList)
    (hresult : IsPlain result.toList) (colored : Bool) :
    Weave (printed settings colored text result) (printed settings false text result) := by
  have hplain := isPlain_segments settings htext hresult
  unfold printed
  refine Weave.append ?_ Weave.newline
  generalize segments settings text result = segments at hplain
  induction segments with
  | nil => exact .nil
  | cons s segments ih =>
    obtain ⟨hs, hsegments⟩ := List.forall_mem_cons.1 hplain
    rw [List.flatMap_cons, List.flatMap_cons]
    refine Weave.append ?_ (ih hsegments)
    cases colored with
    | false => exact Weave.ofPlain hs.2
    | true => exact weave_painted s.paints hs.2

end PostfixCalculator.Batch
