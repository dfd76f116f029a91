import PostfixCalculator.Proofs.Command.Reporting

/-!
# Presentation does not change results

Colours, the status line and the log level choose how a run writes. The text that a terminal shows
of standard output and the way the run ends do not depend on them, nor on the streams that the run
writes to. After each expression of a batch the terminal has its default pen.
-/
namespace PostfixCalculator.Command

open Batch Terminal

variable {env env' : Environment} {o o' : Options} {arguments arguments' texts : List String}
  {settings : Settings} {raised : Disturbance}

/-- The options with the choices of presentation left at their defaults. -/
def Options.unadorned (o : Options) : Options :=
  { o with color := none, noStatus := false, logLevel := .info, quiet := false }

/-- What is asked for apart from the presentation. -/
lemma Options.request_eq (ho : o.unadorned = o'.unadorned) :
    o.settings = o'.settings ∧ o.dumpVersion = o'.dumpVersion ∧ o.version = o'.version ∧
      o.words = o'.words ∧ o.file = o'.file := by
  simp only [unadorned, Options.mk.injEq] at ho
  obtain ⟨hwords, hfile, -, hfrom, hto, hshow, -, -, -, -, hversion, hdumps⟩ := ho
  refine ⟨?_, hdumps, hversion, hwords, hfile⟩
  rw [settings, settings, hfrom, hto, hshow]

/-- The environments differ in nothing but the streams that are written to. -/
def SameInput (env env' : Environment) : Prop :=
  env' = { env with output := env'.output, errors := env'.errors }

lemma isPlain_of_answer {raised : Stage → Option Trouble} {text result : String}
    (h : answer settings raised text = .ok result) :
    IsPlain text.toList ∧ IsPlain result.toList := by
  unfold answer at h
  cases hread : attempt (raised .reading) (readExpression settings text) with
  | error trouble => rw [hread] at h; cases h
  | ok e =>
    rw [hread] at h
    exact ⟨isPlain_of_readExpression (Progress.of_attempt_eq_ok hread),
      isPlain_of_resultOf (Progress.of_attempt_eq_ok h)⟩

lemma exists_answer {x : Answered} (h : x ∈ answers settings raised texts) :
    ∃ raised, x.answer = answer settings raised x.text := by
  induction texts generalizing raised with
  | nil => cases h
  | cons text texts ih =>
    rcases List.mem_cons.1 h with rfl | h
    · exact ⟨raised 0, rfl⟩
    · exact ih h

/-- Lines with colours show what lines without colours are. -/
lemma visible_lines (settings : Settings) (raised : Disturbance) (texts : List String)
    (colored : Bool) :
    visible (lines settings colored (finished settings raised texts)) =
      lines settings false (finished settings raised texts) := by
  have hanswers : ∀ x ∈ finished settings raised texts, ∃ raised,
      x.answer = answer settings raised x.text :=
    fun x hx => exists_answer ((List.takeWhile_prefix _).subset hx)
  refine Weave.visible_eq ?_
  unfold lines
  generalize finished settings raised texts = xs at hanswers
  induction xs with
  | nil => exact .nil
  | cons x xs ih =>
    obtain ⟨⟨raised, hx⟩, hxs⟩ := List.forall_mem_cons.1 hanswers
    rw [List.flatMap_cons, List.flatMap_cons]
    refine Weave.append ?_ (ih hxs)
    unfold Answered.line
    cases hanswer : x.answer with
    | error trouble => exact .nil
    | ok result =>
      obtain ⟨htext, hresult⟩ := isPlain_of_answer (hx.symm.trans hanswer)
      exact weave_printed settings htext hresult colored

/-- The runs end in the same way, and a terminal shows the same text. -/
def LooksAlike (r r' : Report) : Prop :=
  r.ending = r'.ending ∧ visible (r.text .output) = visible (r'.text .output)

lemma looksAlike_reportBatch (hsettings : o.settings = o'.settings)
    (hraised : env.disturbance = env'.disturbance) (log log' : Log) (texts : List String) :
    LooksAlike (reportBatch env o log texts) (reportBatch env' o' log' texts) := by
  obtain ⟨hlines, hending, -⟩ := reportBatch_spec env o log texts
  obtain ⟨hlines', hending', -⟩ := reportBatch_spec env' o' log' texts
  unfold LooksAlike
  rw [hlines, hlines', hending, hending', hsettings, hraised, visible_lines, visible_lines]
  exact ⟨rfl, rfl⟩

lemma LooksAlike.after {r r' : Report} (h : LooksAlike r r') {writes : List Write}
    (hwrites : ∀ w ∈ writes, w.channel = .errors) :
    LooksAlike (r.after writes) (r'.after writes) := by
  refine ⟨h.1, ?_⟩
  rw [Report.text_after hwrites, Report.text_after hwrites]
  exact h.2

/-- The expressions do not depend on the presentation. -/
lemma expressionsOf_eq (henv : SameInput env env') (ho : o.unadorned = o'.unadorned) :
    expressionsOf env o = expressionsOf env' o' := by
  have hunadorned : ∀ o : Options, expressionsOf env o = expressionsOf env o.unadorned :=
    fun _ => rfl
  rw [hunadorned o, ho, ← hunadorned o', henv]
  rfl

lemma looksAlike_reportExpressions (henv : SameInput env env') (ho : o.unadorned = o'.unadorned) :
    LooksAlike (reportExpressions env o) (reportExpressions env' o') := by
  obtain ⟨hsettings, -⟩ := Options.request_eq ho
  have hraised : env.disturbance = env'.disturbance := by rw [henv]
  unfold reportExpressions
  rw [expressionsOf_eq henv ho]
  cases expressionsOf env' o' with
  | ok texts => exact looksAlike_reportBatch hsettings hraised _ _ texts
  | error fault =>
    cases fault with
    | crashed crash => exact ⟨rfl, rfl⟩
    | reported message =>
      refine ⟨rfl, congrArg visible ?_⟩
      rw [Report.text_output, Report.text_output,
        Report.printed_of_errors (Log.channel_writes _ _),
        Report.printed_of_errors (Log.channel_writes _ _)]

lemma looksAlike_reportOptions (henv : SameInput env env') (ho : o.unadorned = o'.unadorned) :
    LooksAlike (reportOptions env o) (reportOptions env' o') := by
  obtain ⟨-, hdumps, hversion, hwords, hfile⟩ := Options.request_eq ho
  have hexpressions := looksAlike_reportExpressions henv ho
  unfold reportOptions
  dsimp only
  rw [hdumps, hversion, hwords, hfile]
  split_ifs
  · exact ⟨rfl, rfl⟩
  · exact ⟨rfl, rfl⟩
  · refine hexpressions.after fun w hw => ?_
    rw [List.mem_singleton.1 hw]
    rfl
  · exact hexpressions

lemma prefix_finished_take (settings : Settings) (raised : Disturbance) (texts : List String)
    (count : ℕ) : finished settings raised (texts.take count) <+: finished settings raised texts := by
  unfold finished
  conv_rhs => rw [← List.take_append_drop count texts, answers_append]
  rw [List.takeWhile_append]
  split_ifs with hall
  · rw [(List.takeWhile_prefix _).eq_of_length hall]
    exact List.prefix_append _ _
  · exact List.prefix_rfl

/-- After some expressions the text so far leaves the terminal with its default pen. -/
lemma display_sofar {p : Printer} (hidle : p.Idle) (hsent : p.writer.output = [])
    (settings : Settings) (raised : Disturbance) (texts : List String) :
    let sofar := (evaluateAll settings raised { printer := p } texts).output
    sofar = lines settings p.colored (finished settings raised texts) ∧
      (display sofar).mode = .text ∧ (display sofar).pen = {} := by
  intro sofar
  have hadvances := (Progress.advances_evaluateAll (b := { printer := p }) settings hidle rfl raised
    texts).1
  have hlines : sofar = lines settings p.colored (finished settings raised texts) :=
    hadvances.output.trans (List.nil_append _)
  have hprinter := hadvances.idle.display_output
  rw [hadvances.sent, hsent, List.nil_append] at hprinter
  refine ⟨hlines, ?_⟩
  rw [hlines]
  exact hprinter

/-- Runs that are asked for the same in different presentations end in the same way, and a terminal
shows the same text. After each expression the terminal has its default pen. -/
theorem run_presentation (henv : SameInput env env') (h : readArguments arguments = .ok o)
    (h' : readArguments arguments' = .ok o') (ho : o.unadorned = o'.unadorned) :
    LooksAlike (run env arguments) (run env' arguments') ∧
    ∀ texts, Evaluates env arguments o texts → ∀ count,
      let inside := ((Printer.onStream env.output o.color o.isPlain).enter .whole).1
      let sofar := (evaluateAll o.settings env.disturbance { printer := inside }
        (texts.take count)).output
      sofar <+: (run env arguments).text .output ∧ (display sofar).mode = .text ∧
        (display sofar).pen = {} := by
  constructor
  · rw [run, run, h, h']
    exact looksAlike_reportOptions henv ho
  · intro texts hruns count inside sofar
    have hidle : inside.Idle := (Printer.idle_onStream env.output o.color o.isPlain).enter
    obtain ⟨hsofar, hdisplay⟩ := display_sofar hidle rfl o.settings env.disturbance
      (texts.take count)
    obtain ⟨houtput, -⟩ := hruns.spec
    obtain ⟨hlines, -⟩ := reportBatch_spec env o (Log.ofOptions env o) texts
    have hprefix := (prefix_finished_take o.settings env.disturbance texts count).flatMap
      (Answered.line o.settings inside.colored)
    refine ⟨?_, hdisplay⟩
    rw [houtput, hlines, show sofar = _ from hsofar]
    exact hprefix

/-- A coloured run on a terminal and a quiet one on a pipe. -/
theorem run_presentation_quiet :
    let env : Environment := ⟨Text.encode "1 + 1\n".toList, fun _ => .error .missing, .standard,
      ⟨some true, some 1⟩, ⟨some true, some 2⟩, fun _ _ => none⟩
    let env' : Environment := { env with output := ⟨none, some 7⟩ }
    let r := run env ["-s", "--color", "--log-level", "DEBUG"]
    let r' := run env' ["--quiet", "--show-expression", "--no-color"]
    let inside := ((Printer.onStream env.output (some true) false).enter .whole).1
    let sofar := (evaluateAll ⟨false, false, true⟩ (fun _ _ => none) { printer := inside }
      ["1 + 1"]).output
    LooksAlike r r' ∧ r'.text .output = "1 + 1 = 2.0\n".toList ∧ sofar ≠ [] ∧
      sofar <+: r.text .output ∧ (display sofar).pen = {} := by
  intro env env' r r' inside sofar
  let o : Options :=
    { showExpression := true, color := some true, logLevel := .debug }
  let o' : Options :=
    { showExpression := true, color := some false, logLevel := .critical, quiet := true }
  have henv : SameInput env env' := rfl
  have h : readArguments ["-s", "--color", "--log-level", "DEBUG"] = .ok o := by decide +kernel
  have h' : readArguments ["--quiet", "--show-expression", "--no-color"] = .ok o' := by
    decide +kernel
  have hdecoded : Text.decodeStream (Text.encode "1 + 1\n".toList) = .ok "1 + 1\n".toList := by cbv
  have hlisted : textExpressions .universal "1 + 1\n".toList = ["1 + 1"] := by cbv
  have hruns : Evaluates env ["-s", "--color", "--log-level", "DEBUG"] o ["1 + 1"] :=
    ⟨h, rfl, rfl, hlisted ▸ expressionsOf_input rfl rfl hdecoded⟩
  obtain ⟨halike, hsettled⟩ := run_presentation henv h h' rfl
  obtain ⟨hsofar, -, hpen⟩ := hsettled ["1 + 1"] hruns 1
  exact ⟨halike, by decide +kernel, by decide +kernel, hsofar, hpen⟩

end PostfixCalculator.Command
