import PostfixCalculator.Proofs.Batch.Printing

/-!
# Answers of a batch

Each expression of a batch is answered by a result, by a problem, or by a trouble that ends the
batch. The answers alone determine what is written, which errors are logged, and how the batch ends:
an answer adds its own line or record to what was there before and changes nothing else.
-/
namespace PostfixCalculator.Batch

open Terminal

/-- The result that is printed for an expression, or what keeps it from being printed. -/
def answer (settings : Settings) (raised : Stage → Option Trouble) (text : String) :
    Except Trouble String := do
  let e ← attempt (raised .reading) (readExpression settings text)
  attempt (raised .answering) (resultOf settings e)

/-- An expression with its answer. -/
structure Answered where
  text : String
  answer : Except Trouble String

/-- The answers to expressions if none of them ends the batch. -/
def answers (settings : Settings) (raised : Disturbance) : List String → List Answered
  | [] => []
  | text :: rest =>
    ⟨text, answer settings (raised 0) text⟩ ::
      answers settings (fun number => raised (number + 1)) rest

lemma answers_append (settings : Settings) (raised : Disturbance) (xs ys : List String) :
    answers settings raised (xs ++ ys) =
      answers settings raised xs ++ answers settings (fun n => raised (n + xs.length)) ys := by
  induction xs generalizing raised with
  | nil => rfl
  | cons x xs ih =>
    rw [List.cons_append, answers, answers, ih, List.cons_append]
    simp only [List.length_cons, Nat.add_assoc]

namespace Answered

def line (settings : Settings) (colored : Bool) (x : Answered) : List Char :=
  match x.answer with
  | .ok result => printed settings colored x.text result
  | .error _ => []

/-- The error that is logged for a problem. -/
def complaint? (x : Answered) : Option Record :=
  match x.answer with
  | .error (.fault f) => if f.isProblem then some (failureRecord x.text f) else none
  | _ => none

/-- The trouble that ends the batch. -/
def stop? (x : Answered) : Option Trouble :=
  match x.answer with
  | .error trouble => if trouble.isProblem then none else some trouble
  | .ok _ => none

lemma nothing_of_stop {x : Answered} {trouble : Trouble} (h : x.stop? = some trouble)
    (settings : Settings) (colored : Bool) :
    x.line settings colored = [] ∧ x.complaint? = none := by
  obtain ⟨text, answer⟩ := x
  cases answer with
  | ok result => cases h
  | error trouble =>
    refine ⟨rfl, ?_⟩
    cases trouble with
    | interruption => rfl
    | fault f =>
      cases hproblem : f.isProblem with
      | false => exact if_neg (by simp [hproblem])
      | true => simp [stop?, Trouble.isProblem, hproblem] at h

end Answered

/-- The lines of all results. -/
def lines (settings : Settings) (colored : Bool) (xs : List Answered) : List Char :=
  xs.flatMap (Answered.line settings colored)

def complaints (xs : List Answered) : List Record := xs.filterMap Answered.complaint?

def Event.text : Event → List Char
  | .logged _ => []
  | .wrote text => text

def Event.error? : Event → Option Record
  | .logged r => if r.level = .error then some r else none
  | .wrote _ => none

namespace Progress

variable {settings : Settings} {b b' b'' : Progress} {text : String} {xs ys : List Answered}

def output (b : Progress) : List Char := b.events.flatMap Event.text

/-- The errors that were logged. -/
def errors (b : Progress) : List Record := b.events.filterMap Event.error?

/-- The second batch is the first after these answers, between two expressions. -/
structure Advances (settings : Settings) (b : Progress) (xs : List Answered) (b' : Progress) : Prop
    where
  idle : b'.printer.Idle
  colored : b'.printer.colored = b.printer.colored
  sent : b'.printer.writer.output =
    b.printer.writer.output ++ lines settings b.printer.colored xs
  output : b'.output = b.output ++ lines settings b.printer.colored xs
  errors : b'.errors = b.errors ++ complaints xs
  failures : b'.failures = b.failures + (complaints xs).length

namespace Advances

lemma refl (h : b.printer.Idle) : Advances settings b [] b where
  idle := h
  colored := rfl
  sent := (List.append_nil _).symm
  output := (List.append_nil _).symm
  errors := (List.append_nil _).symm
  failures := rfl

lemma trans (h : Advances settings b xs b') (h' : Advances settings b' ys b'') :
    Advances settings b (xs ++ ys) b'' where
  idle := h'.idle
  colored := h'.colored.trans h.colored
  sent := by
    rw [h'.sent, h.sent, h.colored, lines, lines, lines, List.flatMap_append, List.append_assoc]
  output := by
    rw [h'.output, h.output, h.colored, lines, lines, lines, List.flatMap_append, List.append_assoc]
  errors := by
    rw [h'.errors, h.errors, complaints, complaints, complaints, List.filterMap_append,
      List.append_assoc]
  failures := by
    rw [h'.failures, h.failures, complaints, complaints, complaints, List.filterMap_append,
      List.length_append, Nat.add_assoc]

/-- An answer that ends the batch adds nothing. -/
lemma of_stop {x : Answered} {trouble : Trouble} (hstop : x.stop? = some trouble)
    (h : Advances settings b [x] b') : Advances settings b [] b' := by
  obtain ⟨hline, hcomplaint⟩ := Answered.nothing_of_stop hstop settings b.printer.colored
  have hlines : lines settings b.printer.colored [x] = lines settings b.printer.colored [] := by
    simp [lines, hline]
  have hcomplaints : complaints [x] = complaints [] := by simp [complaints, hcomplaint]
  exact ⟨h.idle, h.colored, hlines ▸ h.sent, hlines ▸ h.output, hcomplaints ▸ h.errors,
    hcomplaints ▸ h.failures⟩

end Advances

lemma errors_log (b : Progress) (r : Record) :
    (b.log r).errors = b.errors ++ if r.level = .error then [r] else [] := by
  unfold errors log
  rw [List.filterMap_append]
  split_ifs with hlevel <;> simp [Event.error?, hlevel]

lemma output_log (b : Progress) (r : Record) : (b.log r).output = b.output := by
  unfold output log
  rw [List.flatMap_append]
  exact List.append_nil _

/-- A record that is no error makes no difference. -/
lemma advances_log (h : b.printer.Idle) {r : Record} (hlevel : r.level ≠ .error) :
    Advances settings b [] (b.log r) where
  idle := h
  colored := rfl
  sent := (List.append_nil _).symm
  output := (b.output_log r).trans (List.append_nil _).symm
  errors := by rw [errors_log, if_neg hlevel]; rfl
  failures := rfl

lemma level_readingRecord (fromPostfix : Bool) (e : Expression) :
    (readingRecord fromPostfix e).level ≠ .error := by
  cases fromPostfix <;> simp [readingRecord]

/-- Trouble that is no problem ends the batch and adds nothing. -/
lemma advances_stop (h : b.printer.Idle) (text : String) {trouble : Trouble}
    (hproblem : trouble.isProblem = false) :
    Advances settings b [⟨text, .error trouble⟩] { b with ended := some trouble } ∧
      some trouble = Answered.stop? ⟨text, .error trouble⟩ := by
  have hstop : Answered.stop? ⟨text, .error trouble⟩ = some trouble := by
    simp [Answered.stop?, hproblem]
  obtain ⟨hline, hcomplaint⟩ := Answered.nothing_of_stop hstop settings b.printer.colored
  refine ⟨⟨h, rfl, ?_, ?_, ?_, ?_⟩, hstop.symm⟩
  · simp [lines, hline]
  · simp [lines, hline, output]
  · simp [complaints, hcomplaint, errors]
  · simp [complaints, hcomplaint]

/-- Trouble with an expression leaves the printer alone. -/
lemma advances_fail (h : b.printer.Idle) (hended : b.ended = none) (text : String)
    (trouble : Trouble) :
    Advances settings b [⟨text, .error trouble⟩] (b.fail text trouble) ∧
      (b.fail text trouble).ended = Answered.stop? ⟨text, .error trouble⟩ := by
  cases trouble with
  | interruption => exact advances_stop h text rfl
  | fault f =>
    cases hproblem : f.isProblem with
    | false =>
      have hfail : b.fail text (.fault f) = { b with ended := some (.fault f) } := by
        simp [fail, hproblem]
      rw [hfail]
      exact advances_stop h text hproblem
    | true =>
      have hfail : b.fail text (.fault f) =
          { b.log (failureRecord text f) with failures := b.failures + 1 } := by
        simp [fail, hproblem]
      have hcomplaints : complaints [⟨text, .error (.fault f)⟩] = [failureRecord text f] := by
        simp [complaints, Answered.complaint?, hproblem]
      have houtput := b.output_log (failureRecord text f)
      have herrors : (b.log (failureRecord text f)).errors = b.errors ++ [failureRecord text f] :=
        b.errors_log (failureRecord text f)
      have hgoes : Answered.stop? ⟨text, .error (.fault f)⟩ = none := by
        simp [Answered.stop?, Trouble.isProblem, hproblem]
      rw [hfail, hgoes]
      refine ⟨⟨h, rfl, (List.append_nil _).symm, houtput.trans (List.append_nil _).symm, ?_, ?_⟩,
        hended⟩
      · rw [hcomplaints]
        exact herrors
      · rw [hcomplaints]
        rfl

/-- What a printer sends while it is used becomes events. -/
lemma output_print (use : Printer → Printer) {sent : List Char}
    (hsent : b.printer.writer.sent <+: (use b.printer).writer.sent)
    (houtput : (use b.printer).writer.output = b.printer.writer.output ++ sent) :
    (b.print use).output = b.output ++ sent ∧ (b.print use).errors = b.errors := by
  obtain ⟨new, hnew⟩ := hsent
  have hdrop : (use b.printer).writer.sent.drop b.printer.writer.sent.length = new := by
    rw [← hnew, List.drop_left]
  have hflatten : new.flatten = sent := by
    rw [Writer.output, Writer.output, ← hnew, List.flatten_append] at houtput
    exact List.append_cancel_left houtput
  have htexts : (new.map Event.wrote).flatMap Event.text = new.flatten := by
    rw [List.flatMap_map]
    exact List.flatMap_id
  have hrecords : (new.map Event.wrote).filterMap Event.error? = [] := by
    rw [List.filterMap_map]
    exact List.filterMap_eq_nil_iff.2 fun _ _ => rfl
  unfold print output errors
  dsimp only
  rw [hdrop, List.flatMap_append, List.filterMap_append, htexts, hrecords, hflatten,
    List.append_nil]
  exact ⟨rfl, rfl⟩

lemma advances_print (h : b.printer.Idle) {result : String} (htext : IsPlain text.toList)
    (hresult : IsPlain result.toList) :
    Advances settings b [⟨text, .ok result⟩] (b.print (printResult settings text result)) := by
  obtain ⟨hidle, hcolored, hsent, houtput⟩ := printResult_of_idle h settings htext hresult
  obtain ⟨htexts, herrors⟩ := output_print _ hsent houtput
  have hline : lines settings b.printer.colored [⟨text, .ok result⟩] =
      printed settings b.printer.colored text result := List.append_nil _
  exact ⟨hidle, hcolored, hline ▸ houtput, hline ▸ htexts, herrors.trans (List.append_nil _).symm,
    rfl⟩

lemma of_attempt_eq_ok {α : Type} {raised : Option Trouble} {result : Except Fault α} {value : α}
    (h : attempt raised result = .ok value) : result = .ok value := by
  cases raised with
  | some trouble => cases h
  | none =>
    cases result with
    | error fault => cases h
    | ok found => cases h; rfl

/-- One expression adds its answer. -/
theorem advances_next (settings : Settings) (h : b.printer.Idle) (hended : b.ended = none)
    (raised : Stage → Option Trouble) (text : String) :
    Advances settings b [⟨text, answer settings raised text⟩] (b.next settings raised text) ∧
      (b.next settings raised text).ended =
        Answered.stop? ⟨text, answer settings raised text⟩ := by
  unfold next evaluate answer
  rw [hended]
  simp only [Option.isSome_none, Bool.false_eq_true, if_false]
  cases hread : attempt (raised .reading) (readExpression settings text) with
  | error trouble => exact advances_fail h hended text trouble
  | ok e =>
    have hlog : Advances settings b [] (b.log (readingRecord settings.fromPostfix e)) :=
      advances_log h (level_readingRecord settings.fromPostfix e)
    have hlogged : (b.log (readingRecord settings.fromPostfix e)).ended = none := hended
    simp only [bind, Except.bind]
    cases hanswer : attempt (raised .answering) (resultOf settings e) with
    | error trouble =>
      obtain ⟨hfail, hstop⟩ := advances_fail hlog.idle hlogged text trouble
      exact ⟨hlog.trans hfail, hstop⟩
    | ok result =>
      have htext := isPlain_of_readExpression (of_attempt_eq_ok hread)
      have hresult := isPlain_of_resultOf (of_attempt_eq_ok hanswer)
      exact ⟨hlog.trans (advances_print hlog.idle htext hresult), hlogged⟩

lemma evaluateAll_of_ended (h : b.ended.isSome) (raised : Disturbance) (texts : List String) :
    evaluateAll settings raised b texts = b := by
  induction texts generalizing raised with
  | nil => rfl
  | cons text texts ih =>
    have hnext : b.next settings (raised 0) text = b := by rw [next, if_pos h]
    rw [evaluateAll, hnext]
    exact ih fun number => raised (number + 1)

/-- A batch adds the answers up to the first that ends it. -/
theorem advances_evaluateAll (settings : Settings) (h : b.printer.Idle) (hended : b.ended = none)
    (raised : Disturbance) (texts : List String) :
    Advances settings b ((answers settings raised texts).takeWhile fun x => x.stop?.isNone)
        (evaluateAll settings raised b texts) ∧
      (evaluateAll settings raised b texts).ended =
        (answers settings raised texts).findSome? Answered.stop? := by
  induction texts generalizing b raised with
  | nil => exact ⟨.refl h, hended⟩
  | cons text texts ih =>
    obtain ⟨hadvances, hstop⟩ := advances_next settings h hended (raised 0) text
    rw [evaluateAll, answers]
    cases hended' : (b.next settings (raised 0) text).ended with
    | some trouble =>
      have hx := hstop.symm.trans hended'
      rw [evaluateAll_of_ended (Option.isSome_of_eq_some hended'), List.takeWhile_cons_of_neg
        (by simp [hx]), List.findSome?_cons_of_isSome (Option.isSome_of_eq_some hx), hx]
      exact ⟨hadvances.of_stop hx, hended'⟩
    | none =>
      have hx := hstop.symm.trans hended'
      obtain ⟨hrest, hlast⟩ := ih hadvances.idle hended' fun number => raised (number + 1)
      rw [List.takeWhile_cons_of_pos (by simp [hx]), List.findSome?_cons_of_isNone
        (by simp [hx])]
      exact ⟨hadvances.trans hrest, hlast⟩

end Progress

end PostfixCalculator.Batch
