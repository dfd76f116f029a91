import PostfixCalculator.Proofs.Command.Reporting

/-!
# Expressions of a batch are independent

As long as expressions have results or problems, a batch prints what each of them prints alone, and
logs and counts the problems. Trouble that is no problem ends the run with the output of the
expressions before it.
-/
namespace PostfixCalculator.Command

open Batch Terminal

variable {settings : Settings} {raised : Disturbance} {p : Printer} {text : String}
  {texts xs ys : List String}

/-- What reading an expression and finding its result come to. -/
def outcomeOf (settings : Settings) (text : String) : Except Fault String :=
  readExpression settings text >>= resultOf settings

def succeeds (settings : Settings) (text : String) : Bool :=
  match outcomeOf settings text with
  | .ok _ => true
  | .error _ => false

/-- The error that is logged for an expression with a problem. -/
def failure? (settings : Settings) (text : String) : Option Record :=
  match outcomeOf settings text with
  | .ok _ => none
  | .error f => if f.isProblem then some (failureRecord text f) else none

/-- Nothing but problems keeps these expressions from having results. -/
def OnlyProblems (settings : Settings) (texts : List String) : Prop :=
  ∀ text ∈ texts, ∀ f, outcomeOf settings text = .error f → f.isProblem = true

instance decidableProblems : (result : Except Fault String) →
    Decidable (∀ f, result = .error f → f.isProblem = true)
  | .ok _ => isTrue fun _ h => by cases h
  | .error f => decidable_of_iff (f.isProblem = true)
      ⟨fun h _ hf => Except.error.inj hf ▸ h, fun h => h f rfl⟩

instance (settings : Settings) (texts : List String) : Decidable (OnlyProblems settings texts) :=
  inferInstanceAs (Decidable (∀ text ∈ texts, ∀ f, outcomeOf settings text = .error f → _))

/-- Nothing is raised from outside during the first expressions. -/
def Undisturbed (raised : Disturbance) (count : ℕ) : Prop :=
  ∀ number < count, ∀ stage, raised number stage = none

/-- A batch of its own, into which nothing is raised from outside. -/
def batch (settings : Settings) (p : Printer) (texts : List String) : Progress :=
  evaluateAll settings (fun _ _ => none) { printer := p } texts

/-- The answer that an expression gives by itself. -/
def ownAnswer (settings : Settings) (text : String) : Answered :=
  ⟨text, (outcomeOf settings text).mapError .fault⟩

lemma answer_undisturbed {raised : Stage → Option Trouble} (h : ∀ stage, raised stage = none)
    (settings : Settings) (text : String) :
    answer settings raised text = (outcomeOf settings text).mapError .fault := by
  unfold answer outcomeOf attempt
  rw [h, h]
  cases readExpression settings text with
  | error fault => rfl
  | ok e => rfl

lemma answers_undisturbed (h : Undisturbed raised texts.length) :
    answers settings raised texts = texts.map (ownAnswer settings) := by
  induction texts generalizing raised with
  | nil => rfl
  | cons text texts ih =>
    have hrest : Undisturbed (fun number => raised (number + 1)) texts.length :=
      fun number hnumber => h (number + 1) (Nat.succ_lt_succ hnumber)
    rw [answers, List.map_cons, ih hrest, answer_undisturbed (h 0 (Nat.zero_lt_succ _))]
    rfl

lemma stop_ownAnswers (h : OnlyProblems settings texts) :
    ∀ x ∈ texts.map (ownAnswer settings), x.stop? = none := by
  intro x hx
  obtain ⟨text, hmem, rfl⟩ := List.mem_map.1 hx
  unfold ownAnswer Answered.stop?
  cases houtcome : outcomeOf settings text with
  | ok result => rfl
  | error f =>
    have hproblem := h text hmem f houtcome
    simp [Except.mapError, Trouble.isProblem, hproblem]

lemma complaint_ownAnswer (settings : Settings) (text : String) :
    (ownAnswer settings text).complaint? = failure? settings text := by
  unfold ownAnswer Answered.complaint? failure?
  cases outcomeOf settings text <;> rfl

lemma line_ownAnswer (h : succeeds settings text = false) (colored : Bool) :
    (ownAnswer settings text).line settings colored = [] := by
  unfold succeeds at h
  unfold ownAnswer Answered.line
  cases houtcome : outcomeOf settings text with
  | ok result => rw [houtcome] at h; cases h
  | error f => rfl

/-- Expressions that have only problems are all answered. -/
lemma finished_undisturbed (hraised : Undisturbed raised texts.length)
    (h : OnlyProblems settings texts) :
    finished settings raised texts = texts.map (ownAnswer settings) ∧
      (answers settings raised texts).findSome? Answered.stop? = none := by
  have hgoes := stop_ownAnswers h
  rw [finished, answers_undisturbed hraised]
  refine ⟨List.takeWhile_eq_self_iff.2 fun x hx => by simp [hgoes x hx], ?_⟩
  exact List.findSome?_eq_none_iff.2 hgoes

lemma advances_batch (hidle : p.Idle) (h : OnlyProblems settings texts) :
    Progress.Advances settings { printer := p } (texts.map (ownAnswer settings))
        (batch settings p texts) ∧ (batch settings p texts).ended = none := by
  have hraised : Undisturbed (fun _ _ => none) texts.length := fun _ _ _ => rfl
  obtain ⟨hfinished, hended⟩ := finished_undisturbed hraised h
  have hall := Progress.advances_evaluateAll (b := { printer := p }) settings hidle rfl
    (fun _ _ => none) texts
  unfold finished at hfinished
  rwa [hfinished, hended] at hall

/-- What is logged and printed for a batch is put together from what it is for each expression. -/
structure Independent (settings : Settings) (p : Printer) (texts : List String) : Prop where
  ended : (batch settings p texts).ended = none
  failures : (batch settings p texts).failures =
    texts.countP fun text => (failure? settings text).isSome
  errors : (batch settings p texts).errors = texts.filterMap (failure? settings)
  output : (batch settings p texts).output =
    (texts.filter (succeeds settings)).flatMap fun text => (batch settings p [text]).output
  parts : ∀ xs ys, xs ++ ys = texts →
    (batch settings p texts).output = (batch settings p xs).output ++ (batch settings p ys).output ∧
      (batch settings p texts).failures =
        (batch settings p xs).failures + (batch settings p ys).failures
  settled : ∀ count, (batch settings p (texts.take count)).printer.writer.pending = none ∧
    (batch settings p (texts.take count)).printer.current = (none, false)

lemma OnlyProblems.subset (h : OnlyProblems settings texts) (hsub : xs ⊆ texts) :
    OnlyProblems settings xs := fun text htext => h text (hsub htext)

lemma complaints_ownAnswers (settings : Settings) (texts : List String) :
    complaints (texts.map (ownAnswer settings)) = texts.filterMap (failure? settings) := by
  rw [complaints, List.filterMap_map]
  exact List.filterMap_congr fun text _ => complaint_ownAnswer settings text

lemma lines_filter (settings : Settings) (colored : Bool) (texts : List String) :
    lines settings colored (texts.map (ownAnswer settings)) =
      (texts.filter (succeeds settings)).flatMap fun text =>
        lines settings colored [ownAnswer settings text] := by
  unfold lines
  induction texts with
  | nil => rfl
  | cons text texts ih =>
    rw [List.map_cons, List.flatMap_cons, ih]
    cases hsucceeds : succeeds settings text with
    | true =>
      rw [List.filter_cons_of_pos hsucceeds, List.flatMap_cons]
      simp
    | false =>
      rw [List.filter_cons_of_neg (by simp [hsucceeds]), line_ownAnswer hsucceeds, List.nil_append]

lemma output_batch (hidle : p.Idle) (h : OnlyProblems settings texts) :
    (batch settings p texts).output = lines settings p.colored (texts.map (ownAnswer settings)) :=
  (advances_batch hidle h).1.output.trans (List.nil_append _)

lemma failures_batch (hidle : p.Idle) (h : OnlyProblems settings texts) :
    (batch settings p texts).failures = (texts.filterMap (failure? settings)).length := by
  rw [(advances_batch hidle h).1.failures, complaints_ownAnswers]
  exact Nat.zero_add _

theorem independent (hidle : p.Idle) (h : OnlyProblems settings texts) :
    Independent settings p texts where
  ended := (advances_batch hidle h).2
  failures := by rw [failures_batch hidle h, List.length_filterMap_eq_countP]
  errors := by
    rw [(advances_batch hidle h).1.errors, complaints_ownAnswers]
    exact List.nil_append _
  output := by
    rw [output_batch hidle h, lines_filter]
    refine List.flatMap_congr fun text htext => ?_
    have hmem : [text] ⊆ texts := by simpa using List.mem_of_mem_filter htext
    exact (output_batch hidle (h.subset hmem)).symm
  parts xs ys hparts := by
    subst hparts
    have hxs := h.subset (List.subset_append_left xs ys)
    have hys := h.subset (List.subset_append_right xs ys)
    constructor
    · rw [output_batch hidle h, output_batch hidle hxs, output_batch hidle hys, lines, lines, lines,
        List.map_append, List.flatMap_append]
    · rw [failures_batch hidle h, failures_batch hidle hxs, failures_batch hidle hys,
        List.filterMap_append, List.length_append]
  settled count := by
    have hbefore := h.subset (List.take_subset count texts)
    obtain ⟨hknows, hheld, hcurrent⟩ := (advances_batch hidle hbefore).1.idle
    exact ⟨hheld, hcurrent⟩

/-- Trouble that is no problem ends the batch before the expression that it comes with. -/
lemma finished_stopped {count : ℕ} {trouble : Trouble} (hraised : Undisturbed raised count)
    (h : OnlyProblems settings (texts.take count)) (htext : texts[count]? = some text)
    (htrouble : answer settings (raised count) text = .error trouble)
    (hproblem : trouble.isProblem = false) :
    finished settings raised texts = (texts.take count).map (ownAnswer settings) ∧
      (answers settings raised texts).findSome? Answered.stop? = some trouble := by
  obtain ⟨hcount, hget⟩ := List.getElem?_eq_some_iff.1 htext
  have hlength : (texts.take count).length = count := List.length_take_of_le hcount.le
  have hsplit : texts = texts.take count ++ text :: texts.drop (count + 1) := by
    rw [← hget, List.cons_getElem_drop_succ, List.take_append_drop]
  have hbefore : Undisturbed raised (texts.take count).length := hlength.symm ▸ hraised
  have hgoes := stop_ownAnswers h
  have hstop : Answered.stop? ⟨text, answer settings (raised count) text⟩ = some trouble := by
    rw [htrouble]
    simp [Answered.stop?, hproblem]
  have hanswers : answers settings raised texts =
      (texts.take count).map (ownAnswer settings) ++
        ⟨text, answer settings (raised count) text⟩ ::
          answers settings (fun number => raised (number + 1 + count)) (texts.drop (count + 1)) := by
    conv_lhs => rw [hsplit]
    rw [answers_append, answers_undisturbed hbefore, answers, hlength, Nat.zero_add]
  rw [finished, hanswers, List.findSome?_append, List.findSome?_eq_none_iff.2 hgoes,
    List.findSome?_cons_of_isSome (Option.isSome_of_eq_some hstop), hstop,
    List.takeWhile_append_of_pos (fun x hx => by simp [hgoes x hx]),
    List.takeWhile_cons_of_neg (by simp [hstop]), List.append_nil]
  exact ⟨rfl, rfl⟩

/-- As long as its expressions have only problems, a batch prints what each of them prints alone,
logs one error for each problem and counts them, and leaves the printer settled after each
expression. A run that evaluates them ends with status one if there are problems. Any other trouble
with an expression ends the run with the output of the expressions before it. -/
theorem batch_independent (texts : List String) :
    (∀ settings p, p.Idle → OnlyProblems settings texts → Independent settings p texts) ∧
    ∀ env arguments o, Evaluates env arguments o texts →
      let printer := Printer.onStream env.output o.color o.isPlain
      let r := run env arguments
      (Undisturbed env.disturbance texts.length → OnlyProblems o.settings texts →
        r.text .output = (batch o.settings printer texts).output ∧
          r.ending = .returned (if 0 < (batch o.settings printer texts).failures then 1 else 0)) ∧
      ∀ count text trouble, Undisturbed env.disturbance count →
        OnlyProblems o.settings (texts.take count) → texts[count]? = some text →
        answer o.settings (env.disturbance count) text = .error trouble →
        trouble.isProblem = false →
        r.text .output = (batch o.settings printer (texts.take count)).output ∧
          r.ending = match trouble with
            | .fault f => .crashed (.expression f)
            | .interruption => .returned 1 := by
  refine ⟨fun settings p hidle h => independent hidle h, fun env arguments o hrun => ?_⟩
  intro printer r
  have hidle : printer.Idle := Printer.idle_onStream env.output o.color o.isPlain
  obtain ⟨houtput, hending, -⟩ := hrun.spec
  obtain ⟨hlines, hends, -⟩ := reportBatch_spec env o (Log.ofOptions env o) texts
  constructor
  · intro hraised h
    obtain ⟨hfinished, hgoes⟩ := finished_undisturbed hraised h
    rw [hfinished] at hlines hends
    rw [hgoes] at hends
    refine ⟨(houtput.trans hlines).trans (output_batch hidle h).symm, ?_⟩
    rw [hending, hends, endingOf, failures_batch hidle h, complaints_ownAnswers]
    cases texts.filterMap (failure? o.settings) <;> simp
  · intro count text trouble hraised h htext htrouble hproblem
    obtain ⟨hfinished, hstops⟩ := finished_stopped hraised h htext htrouble hproblem
    rw [hfinished] at hlines hends
    rw [hstops] at hends
    refine ⟨(houtput.trans hlines).trans (output_batch hidle h).symm, ?_⟩
    rw [hending, hends]
    cases trouble <;> rfl

/-- A sum, a problem, and an interruption while the third expression is read. -/
theorem batch_independent_interrupted :
    let texts := ["1 + 1", "+", "2"]
    let raised : Disturbance := fun number _ => if number = 2 then some .interruption else none
    let env : Environment := ⟨Text.encode "1 + 1\n+\n2\n".toList, fun _ => .error .missing,
      .standard, ⟨some true, some 1⟩, ⟨some true, some 2⟩, raised⟩
    let p := Printer.onStream env.output none false
    let calm : Environment := { env with disturbance := fun _ _ => none }
    OnlyProblems ⟨false, false, false⟩ texts ∧ Independent ⟨false, false, false⟩ p texts ∧
      (run calm []).ending = .returned 1 ∧
      (run env []).text .output = (batch ⟨false, false, false⟩ p ["1 + 1", "+"]).output ∧
      (run env []).ending = .returned 1 := by
  intro texts raised env p calm
  have hproblems : OnlyProblems ⟨false, false, false⟩ texts := by decide +kernel
  have hidle : p.Idle := Printer.idle_onStream _ _ _
  have hdecoded : Text.decodeStream (Text.encode "1 + 1\n+\n2\n".toList) =
      .ok "1 + 1\n+\n2\n".toList := by cbv
  have hlisted : textExpressions .universal "1 + 1\n+\n2\n".toList = texts := by cbv
  have hruns : ∀ e : Environment, e.input = env.input → Evaluates e [] {} texts := by
    intro e he
    exact ⟨rfl, rfl, rfl, hlisted ▸ expressionsOf_input rfl he hdecoded⟩
  obtain ⟨hindependent, hrun⟩ := batch_independent texts
  have hcalm := (hrun calm [] {} (hruns calm rfl)).1 (fun _ _ _ => rfl) hproblems
  have hfailures : 0 < (batch ⟨false, false, false⟩ p texts).failures := by decide +kernel
  have hbefore : Undisturbed env.disturbance 2 := by
    intro number hnumber stage
    exact if_neg (by omega)
  have hended := (hrun env [] {} (hruns env rfl)).2 2 "2" .interruption hbefore
    (hproblems.subset (List.take_subset 2 texts)) rfl rfl rfl
  have hstatus := hcalm.2.trans (congrArg Ending.returned (if_pos hfailures))
  exact ⟨hproblems, hindependent _ p hidle hproblems, hstatus, hended⟩

end PostfixCalculator.Command
