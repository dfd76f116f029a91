import PostfixCalculator.Command.Report
import PostfixCalculator.Proofs.Batch.Answers

/-!
# What a run reports of a batch

The answers of a batch determine what a run writes to standard output and how it ends. Everything
else that a run writes goes to standard error.
-/
namespace PostfixCalculator.Command

open Batch Terminal

variable {env : Environment} {o : Options} {log : Log} {arguments texts : List String}

namespace Report

/-- All text that these writes send to standard output. -/
def printed (writes : List Write) : List Char :=
  (writes.filter fun w => w.channel == .output).flatMap (·.text)

lemma text_output (r : Report) : r.text .output = printed r.writes := rfl

lemma printed_append (before after : List Write) :
    printed (before ++ after) = printed before ++ printed after := by
  rw [printed, List.filter_append, List.flatMap_append]
  rfl

lemma printed_of_errors {writes : List Write} (h : ∀ w ∈ writes, w.channel = .errors) :
    printed writes = [] := by
  have hnone : writes.filter (fun w => w.channel == .output) = [] :=
    List.filter_eq_nil_iff.2 fun w hw => by simp [h w hw]
  rw [printed, hnone]
  rfl

/-- What is written to standard error before a run does not reach standard output. -/
lemma text_after {writes : List Write} (h : ∀ w ∈ writes, w.channel = .errors) (r : Report) :
    (r.after writes).text .output = r.text .output := by
  rw [text_output, text_output, after, printed_append, printed_of_errors h, List.nil_append]

end Report

lemma Log.channel_writes (log : Log) (r : Record) : ∀ w ∈ log.writes r, w.channel = .errors := by
  intro w hw
  unfold writes at hw
  split_ifs at hw
  · obtain ⟨text, -, rfl⟩ := List.mem_map.1 hw
    rfl
  · cases hw

/-- What the results of a batch send to standard output. -/
lemma printed_events (log : Log) (events : List Event) :
    Report.printed (events.flatMap log.eventWrites) = events.flatMap Event.text := by
  induction events with
  | nil => rfl
  | cons event events ih =>
    rw [List.flatMap_cons, List.flatMap_cons, Report.printed_append, ih]
    congr 1
    cases event with
    | logged r => exact Report.printed_of_errors (log.channel_writes r)
    | wrote text => exact List.append_nil text

/-- The answers up to the first that ends the batch. -/
def finished (settings : Settings) (raised : Disturbance) (texts : List String) : List Answered :=
  (answers settings raised texts).takeWhile fun x => x.stop?.isNone

lemma output_close {b : Progress} {e : Entered} (hheld : b.printer.writer.pending = none)
    (hscope : e.scope = .whole) : (b.print fun p => (p.leave e).close).output = b.output := by
  have hsent := Printer.sent_close_leave hscope hheld
  have hsame : (b.printer.leave e).close.writer.output = b.printer.writer.output ++ [] :=
    (congrArg List.flatten hsent).trans (List.append_nil _).symm
  rw [(Progress.output_print _ (hsent ▸ List.prefix_rfl) hsame).1, List.append_nil]

/-- Entering, leaving and closing the printer adds nothing to the answers. -/
lemma evaluateWithin_spec {printer : Printer} (h : printer.Idle) (settings : Settings)
    (raised : Disturbance) (texts : List String) :
    let xs := finished settings raised texts
    let batch := evaluateWithin settings raised printer texts
    batch.output = lines settings printer.colored xs ∧
      batch.failures = (complaints xs).length ∧
      batch.ended = (answers settings raised texts).findSome? Answered.stop? := by
  intro xs batch
  obtain ⟨hadvances, hended⟩ := Progress.advances_evaluateAll
    (b := { printer := (printer.enter .whole).1 }) settings h.enter rfl raised texts
  refine ⟨?_, hadvances.failures.trans (Nat.zero_add _), hended⟩
  exact (output_close hadvances.idle.held rfl).trans (hadvances.output.trans (List.nil_append _))

/-- How a run ends after the answers of its batch. -/
def endingOf (xs : List Answered) (stop : Option Trouble) : Ending :=
  match stop with
  | some (.fault f) => .crashed (.expression f)
  | some .interruption => .returned 1
  | none => .returned (if complaints xs = [] then 0 else 1)

/-- What reaches standard output, and how the run ends, also if a write is interrupted. -/
theorem reportBatch_spec (env : Environment) (o : Options) (log : Log) (texts : List String) :
    let xs := finished o.settings env.disturbance texts
    let r := reportBatch env o log texts
    r.text .output = lines o.settings (Printer.chooseColor env.output o.color) xs ∧
      r.ending = endingOf xs ((answers o.settings env.disturbance texts).findSome? Answered.stop?) ∧
      r.interrupted = .returned 1 := by
  intro xs r
  obtain ⟨houtput, hfailures, hended⟩ := evaluateWithin_spec
    (Printer.idle_onStream env.output o.color o.isPlain) o.settings env.disturbance texts
  have hwrites := (printed_events log (evaluateWithin o.settings env.disturbance
    (Printer.onStream env.output o.color o.isPlain) texts).events).trans houtput
  have hrecord := Report.printed_of_errors
    (log.channel_writes (failedRecord (complaints xs).length texts.length))
  rw [← hended]
  rw [Report.text_output]
  simp only [r, reportBatch, endingOf]
  cases (evaluateWithin o.settings env.disturbance
    (Printer.onStream env.output o.color o.isPlain) texts).ended with
  | some trouble => cases trouble <;> exact ⟨hwrites, rfl, rfl⟩
  | none =>
    dsimp only
    rw [hfailures]
    by_cases hnone : complaints xs = []
    · rw [hnone]
      exact ⟨hwrites, rfl, rfl⟩
    · have hsome : ((complaints xs).length == 0) = false := by simpa using hnone
      rw [hsome, if_neg hnone]
      refine ⟨?_, rfl, rfl⟩
      simp only [Bool.false_eq_true, if_false]
      rw [Report.printed_append, hrecord, List.append_nil]
      exact hwrites

/-- The run evaluates these expressions with these options. -/
structure Evaluates (env : Environment) (arguments : List String) (o : Options)
    (texts : List String) : Prop where
  arguments : readArguments arguments = .ok o
  dumps : o.dumpVersion = false
  asks : (o.version && o.words.isEmpty && o.file.isNone) = false
  expressions : expressionsOf env o = .ok texts

/-- The expressions of standard input are on its lines. -/
lemma expressionsOf_input {bytes : List UInt8} {mode : Text.LineMode} {text : List Char}
    (hsource : o.source? = some .input) (hinput : env.input = ⟨bytes, mode⟩)
    (hdecode : Text.decodeStream bytes = .ok text) :
    expressionsOf env o = .ok (textExpressions mode text) := by
  rw [expressionsOf, hsource]
  dsimp only
  rw [hinput, hdecode]
  rfl

/-- A run that evaluates expressions reports the batch, perhaps after its version number. -/
lemma Evaluates.run (h : Evaluates env arguments o texts) :
    ∃ before : List Write, (∀ w ∈ before, w.channel = .errors) ∧
      run env arguments = (reportBatch env o (Log.ofOptions env o) texts).after before := by
  have hreport : reportExpressions env o = reportBatch env o (Log.ofOptions env o) texts := by
    rw [reportExpressions, h.expressions]
  rw [Command.run, h.arguments]
  cases hversion : o.version with
  | false =>
    simp only [reportOptions, h.dumps, hversion, hreport, Bool.false_eq_true, if_false]
    exact ⟨[], List.forall_mem_nil _, rfl⟩
  | true =>
    have hasks : (o.words.isEmpty && o.file.isNone) = false := by simpa [hversion] using h.asks
    simp only [reportOptions, h.dumps, hversion, hasks, hreport, Bool.false_eq_true, if_false,
      if_true]
    refine ⟨[writeTo .errors versionLine], fun w hw => ?_, rfl⟩
    rw [List.mem_singleton.1 hw]
    rfl

/-- Such a run writes the same to standard output and ends in the same way. -/
theorem Evaluates.spec (h : Evaluates env arguments o texts) :
    (Command.run env arguments).text .output =
        (reportBatch env o (Log.ofOptions env o) texts).text .output ∧
      (Command.run env arguments).ending = (reportBatch env o (Log.ofOptions env o) texts).ending ∧
      (Command.run env arguments).interrupted =
        (reportBatch env o (Log.ofOptions env o) texts).interrupted := by
  obtain ⟨before, hbefore, hrun⟩ := h.run
  rw [hrun]
  exact ⟨Report.text_after hbefore _, rfl, rfl⟩

end PostfixCalculator.Command
