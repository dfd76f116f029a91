import PostfixCalculator.Proofs.Terminal.Buffer
import PostfixCalculator.Proofs.Terminal.Display

/-!
# Sessions of a printer

In a session texts are written and scopes are entered and left, the innermost first. The terminal
has the pen that the printer takes it to have after every step, and leaving a scope brings back the
colour and the style from before it was entered.
-/
namespace PostfixCalculator.Terminal

lemma display_append (a b : List Char) : display (a ++ b) = (display a).receiveAll b :=
  Display.receiveAll_append _ a b

namespace Writer

variable {w : Writer} {pen : Pen} {text : List Char}

/-- A terminal that has received all that the writer was given is between two codes and has this
pen. -/
structure Draws (w : Writer) (pen : Pen) : Prop where
  orderly : w.Orderly
  mode : (display w.given).mode = .text
  pen : (display w.given).pen = pen

lemma Draws.write (h : w.Draws pen) (htext : '\x1b' ∉ text) : (w.write text).Draws pen := by
  obtain ⟨horderly, hgiven⟩ := h.orderly.write text
  have hdisplay := display_append w.given text
  rw [← hgiven, Display.receiveAll_plain h.mode htext] at hdisplay
  exact ⟨horderly, hdisplay ▸ h.mode, hdisplay ▸ h.pen⟩

lemma Draws.flush (h : w.Draws pen) (final : Bool) : (w.flush final).Draws pen := by
  obtain ⟨horderly, hgiven⟩ := h.orderly.flush final
  have hplain : '\x1b' ∉ if final ∧ w.pending.isSome then ['\n'] else [] := by
    split <;> decide
  have hdisplay := display_append w.given (if final ∧ w.pending.isSome then ['\n'] else [])
  rw [← hgiven, Display.receiveAll_plain h.mode hplain] at hdisplay
  exact ⟨horderly, hdisplay ▸ h.mode, hdisplay ▸ h.pen⟩

lemma Draws.code (h : w.Draws pen) (code : Code) :
    (w.write code.chars).Draws (pen.obey code.number) := by
  obtain ⟨horderly, hgiven⟩ := h.orderly.write code.chars
  have hdisplay := display_append w.given code.chars
  rw [← hgiven, Display.receiveAll_code h.mode] at hdisplay
  exact ⟨horderly, hdisplay ▸ h.mode, by rw [hdisplay, h.pen]⟩

lemma Draws.withDepth (h : w.Draws pen) (depth : ℕ) : { w with depth := depth }.Draws pen :=
  ⟨h.orderly.withDepth depth, h.mode, h.pen⟩

end Writer

namespace Printer

variable {p : Printer} {e : Entered}

/-- The pen that the printer takes the terminal to have. -/
def pen (p : Printer) : Pen := ⟨(p.fore.getD .reset).number, p.bright⟩

def Knows (p : Printer) : Prop := p.writer.Draws p.pen

lemma draws_sendCodes {pen : Pen} (h : p.writer.Draws pen) (codes : List Code) :
    (p.sendCodes codes).writer.Draws ((codes.map Code.number).foldl Pen.obey pen) := by
  induction codes generalizing p pen with
  | nil => exact h
  | cons code codes ih => exact ih (p := p.sendCode code) (h.code code)

lemma frame_sendCodes (p : Printer) (codes : List Code) :
    (p.sendCodes codes).fore = p.fore ∧ (p.sendCodes codes).bright = p.bright ∧
      (p.sendCodes codes).colored = p.colored := by
  induction codes generalizing p with
  | nil => exact ⟨rfl, rfl, rfl⟩
  | cons code codes ih => exact ih (p.sendCode code)

lemma obey_startCodes (pen : Pen) (fore : Option Foreground) (bright : Bool) :
    ((startCodes fore bright).map Code.number).foldl Pen.obey pen =
      ⟨(fore.map Foreground.number).getD pen.fore, bright || pen.bright⟩ := by
  cases bright <;> cases fore <;> simp [startCodes, Code.number, Pen.obey_foreground] <;> rfl

lemma obey_endCodes (e : Entered) (fore : Option Foreground) (bright : Bool) :
    ((endCodes e fore bright).map Code.number).foldl Pen.obey
        ⟨((fore.or e.fore).getD .reset).number, bright || e.bright⟩ =
      ⟨(e.fore.getD .reset).number, e.bright⟩ := by
  obtain ⟨scope, saved, savedBright⟩ := e
  by_cases hstyle : bright = true ∧ savedBright = false
  · -- resetting the style sets the default colour, so the saved colour is set again
    obtain ⟨rfl, rfl⟩ := hstyle
    cases saved <;> simp [endCodes, Code.number, Pen.obey_foreground] <;> rfl
  · have hbright : (bright || savedBright) = savedBright := by
      cases bright <;> cases savedBright <;> simp_all
    have hstyle : (bright && !savedBright) = false := by
      cases bright <;> cases savedBright <;> simp_all
    rw [endCodes, hstyle, hbright]
    by_cases hcolor : fore.isSome ∧ fore ≠ saved
    · simp [hcolor, Code.number, Pen.obey_foreground]
    · have hsame : fore.or saved = saved := by
        cases fore <;> simp_all
      simp [hcolor, hsame]

end Printer

/-- The colour and the style inside the scope. -/
def Entered.inside (e : Entered) : Option Foreground × Bool :=
  match e.scope with
  | .painted fore bright => (fore.or e.fore, bright || e.bright)
  | _ => (e.fore, e.bright)

namespace Printer

variable {p : Printer} {e : Entered}

def current (p : Printer) : Option Foreground × Bool := (p.fore, p.bright)

lemma current_enter (p : Printer) (scope : Scope) :
    (p.enter scope).1.current = (p.enter scope).2.inside ∧
      ((p.enter scope).2.fore, (p.enter scope).2.bright) = p.current := by
  cases scope with
  | whole => exact ⟨rfl, rfl⟩
  | plain => exact ⟨rfl, rfl⟩
  | painted fore bright =>
    obtain ⟨hfore, hbright, -⟩ := p.frame_sendCodes (startCodes fore bright)
    exact ⟨by simp only [current, enter, Entered.inside, hfore, hbright], rfl⟩

lemma current_leave (h : p.current = e.inside) : (p.leave e).current = (e.fore, e.bright) := by
  rw [Entered.inside] at h
  unfold leave
  split at h
  · next hscope => rw [hscope]; rfl
  · next hscope =>
    cases hcase : e.scope with
    | whole => exact h
    | plain => exact h
    | painted fore bright => exact absurd hcase (hscope fore bright)

lemma Knows.enter (h : p.Knows) (scope : Scope) : (p.enter scope).1.Knows := by
  cases scope with
  | whole => exact h.withDepth _
  | plain => exact h
  | painted fore bright =>
    have hsent := draws_sendCodes h (startCodes fore bright)
    obtain ⟨hfore, hbright, -⟩ := p.frame_sendCodes (startCodes fore bright)
    rw [obey_startCodes] at hsent
    have hpen : (p.enter (.painted fore bright)).1.pen =
        ⟨(fore.map Foreground.number).getD p.pen.fore, bright || p.pen.bright⟩ := by
      simp only [pen, Printer.enter, hfore, hbright]
      cases fore <;> rfl
    rw [Knows, hpen]
    exact hsent

lemma Knows.leave (h : p.Knows) (hinside : p.current = e.inside) : (p.leave e).Knows := by
  obtain ⟨scope, saved, savedBright⟩ := e
  cases scope with
  | whole =>
    change p.writer.leave.Draws p.pen
    by_cases hlast : p.writer.depth ≤ 1
    · exact Writer.leave_last hlast ▸ (h.withDepth _).flush true
    · exact Writer.leave_inner hlast ▸ h.withDepth _
  | plain => exact h
  | painted fore bright =>
    obtain ⟨hfore, hbright⟩ := Prod.mk.inj hinside
    have hsent := draws_sendCodes h (endCodes ⟨.painted fore bright, saved, savedBright⟩ fore bright)
    rw [pen, hfore, hbright, obey_endCodes] at hsent
    exact hsent

end Printer

/-- A printer and the scopes that were entered and not yet left, the innermost first. -/
structure Session where
  printer : Printer
  entered : List Entered := []
  deriving DecidableEq, Repr

inductive Step where
  | write (text : List Char)
  | newline
  | flush (final : Bool)
  | setColored (wish : Option Bool)
  | enter (paints : List Paint)
  | leave
  deriving DecidableEq, Repr

/-- The step writes no code of its own. -/
def Step.IsPlain : Step → Prop
  | write text => '\x1b' ∉ text
  | _ => True

instance : (step : Step) → Decidable step.IsPlain
  | .write text => inferInstanceAs (Decidable ('\x1b' ∉ text))
  | .newline | .flush _ | .setColored _ | .enter _ | .leave => inferInstanceAs (Decidable True)

namespace Session

/-- A scope is made by the printer when it is entered. Nothing happens when there is no scope to be
left. -/
def step (stream : Stream) (s : Session) : Step → Session
  | .write text => { s with printer := s.printer.write text }
  | .newline => { s with printer := s.printer.newline }
  | .flush final => { s with printer := s.printer.flush final }
  | .setColored wish => { s with printer := s.printer.setColored stream wish }
  | .enter paints =>
    let (inside, e) := s.printer.enter (s.printer.scope paints)
    ⟨inside, e :: s.entered⟩
  | .leave =>
    match s.entered with
    | [] => s
    | e :: entered => ⟨s.printer.leave e, entered⟩

def run (stream : Stream) (s : Session) (steps : List Step) : Session := steps.foldl (step stream) s

def start (stream : Stream) (wish : Option Bool) (quiet : Bool) : Session :=
  { printer := Printer.onStream stream wish quiet }

/-- What is current inside each scope is what was current outside, painted over by the scope. -/
inductive Stacked : List Entered → Option Foreground × Bool → Prop
  | nil : Stacked [] (none, false)
  | cons {e : Entered} {entered : List Entered} (outside : Stacked entered (e.fore, e.bright)) :
      Stacked (e :: entered) e.inside

structure Sound (s : Session) : Prop where
  knows : s.printer.Knows
  stacked : Stacked s.entered s.printer.current

variable {stream : Stream} {s : Session}

lemma sound_start (stream : Stream) (wish : Option Bool) (quiet : Bool) :
    (start stream wish quiet).Sound :=
  ⟨⟨Writer.orderly_start _, rfl, rfl⟩, .nil⟩

lemma Sound.step (h : s.Sound) (stream : Stream) {step : Step} (hplain : step.IsPlain) :
    (s.step stream step).Sound := by
  cases step with
  | write text => exact ⟨h.knows.write hplain, h.stacked⟩
  | newline => exact ⟨h.knows.write (by decide : '\x1b' ∉ ['\n']), h.stacked⟩
  | flush final => exact ⟨h.knows.flush final, h.stacked⟩
  | setColored wish => exact ⟨h.knows, h.stacked⟩
  | enter paints =>
    obtain ⟨hinside, houtside⟩ := s.printer.current_enter (s.printer.scope paints)
    refine ⟨h.knows.enter _, ?_⟩
    change Stacked (_ :: s.entered) (s.printer.enter _).1.current
    rw [hinside]
    exact .cons (houtside ▸ h.stacked)
  | leave =>
    obtain ⟨printer, entered⟩ := s
    cases entered with
    | nil => exact h
    | cons e entered =>
      obtain ⟨hknows, hstacked⟩ := h
      generalize hcurrent : printer.current = current at hstacked
      cases hstacked with
      | cons outside =>
        refine ⟨hknows.leave hcurrent, ?_⟩
        change Stacked entered (printer.leave e).current
        rw [Printer.current_leave hcurrent]
        exact outside

theorem Sound.run (h : s.Sound) (stream : Stream) {steps : List Step}
    (hplain : ∀ step ∈ steps, step.IsPlain) :
    (s.run stream steps).Sound := by
  induction steps generalizing s with
  | nil => exact h
  | cons step steps ih =>
    obtain ⟨hstep, hsteps⟩ := List.forall_mem_cons.1 hplain
    exact ih (h.step stream hstep) hsteps

lemma step_leave {e : Entered} {entered : List Entered} (h : s.entered = e :: entered) :
    s.step stream .leave = ⟨s.printer.leave e, entered⟩ := by rw [step, h]

/-- Every scope that is entered is left, and no other is. -/
inductive Nested : List Step → Prop
  | nil : Nested []
  | write (text : List Char) {rest : List Step} (hrest : Nested rest) : Nested (.write text :: rest)
  | newline {rest : List Step} (hrest : Nested rest) : Nested (.newline :: rest)
  | flush (final : Bool) {rest : List Step} (hrest : Nested rest) : Nested (.flush final :: rest)
  | setColored (wish : Option Bool) {rest : List Step} (hrest : Nested rest) :
      Nested (.setColored wish :: rest)
  | scope (paints : List Paint) {body rest : List Step} (hbody : Nested body) (hrest : Nested rest) :
      Nested (.enter paints :: (body ++ .leave :: rest))

lemma run_append (s : Session) (before after : List Step) :
    s.run stream (before ++ after) = (s.run stream before).run stream after := List.foldl_append

theorem run_nested {steps : List Step} (h : Nested steps) (s : Session) :
    (s.run stream steps).entered = s.entered ∧
      (s.run stream steps).printer.current = s.printer.current := by
  induction h generalizing s with
  | nil => exact ⟨rfl, rfl⟩
  | write text hrest ih => exact ih (s.step stream (.write text))
  | newline hrest ih => exact ih (s.step stream .newline)
  | flush final hrest ih => exact ih (s.step stream (.flush final))
  | setColored wish hrest ih => exact ih (s.step stream (.setColored wish))
  | @scope paints body rest hbody hrest ihbody ihrest =>
    obtain ⟨hinside, houtside⟩ := s.printer.current_enter (s.printer.scope paints)
    have hsplit : s.run stream (.enter paints :: (body ++ .leave :: rest)) =
        (((s.step stream (.enter paints)).run stream body).step stream .leave).run stream rest :=
      run_append (s.step stream (.enter paints)) body (.leave :: rest)
    obtain ⟨hentered, hcurrent⟩ := ihbody (s.step stream (.enter paints))
    obtain ⟨hentered', hcurrent'⟩ := ihrest
      (((s.step stream (.enter paints)).run stream body).step stream .leave)
    rw [hsplit, hentered', hcurrent', step_leave hentered]
    exact ⟨rfl, (Printer.current_leave (hcurrent.trans hinside)).trans houtside⟩

/-- The terminal has the pen that the printer takes it to have after every step. What was current
before a scope is current again when it is left, and once all scopes are left the terminal has its
default pen. -/
theorem display_run (stream : Stream) (wish : Option Bool) (quiet : Bool) {steps : List Step}
    (hplain : ∀ step ∈ steps, step.IsPlain) :
    let s := (start stream wish quiet).run stream steps
    (display s.printer.writer.given).mode = .text ∧
    (display s.printer.writer.given).pen = s.printer.pen ∧
    (∀ paints body, Nested body →
      (s.run stream (.enter paints :: (body ++ [.leave]))).printer.current = s.printer.current) ∧
    (s.entered = [] → (display s.printer.writer.given).pen = {}) := by
  intro s
  obtain ⟨hknows, hstacked⟩ := (sound_start stream wish quiet).run stream hplain
  refine ⟨hknows.mode, hknows.pen, fun paints body hbody => ?_, fun hleft => ?_⟩
  · exact (run_nested (.scope paints hbody .nil) s).2
  · have hdefault : s.printer.current = (none, false) := by
      generalize s.printer.current = current at hstacked
      rw [hleft] at hstacked
      cases hstacked
      rfl
    obtain ⟨hfore, hbright⟩ := Prod.mk.inj hdefault
    rw [hknows.pen, Printer.pen, hfore, hbright]
    rfl

/-- A bright green scope inside a red one, left after colours were switched off. -/
theorem display_run_switched :
    let stream : Stream := ⟨some true, some 1⟩
    let steps : List Step := [.enter [.color (.shade .red false)], .write ['a', '\n'],
      .enter [.bright, .color (.shade .green true)], .setColored (some false), .write ['b'], .leave,
      .leave]
    let s := (start stream none false).run stream steps
    (∀ step ∈ steps, step.IsPlain) ∧ s.entered = [] ∧
      (display s.printer.writer.given).pen = {} ∧ Nested [.write ['c'], .newline] ∧
      (s.run stream (.enter [.bright] :: ([.write ['c'], .newline] ++ [.leave]))).printer.current =
        s.printer.current := by
  intro stream steps s
  have hplain : ∀ step ∈ steps, step.IsPlain := by decide
  have hleft : s.entered = [] := by decide
  have hnested : Nested [.write ['c'], .newline] := .write _ (.newline .nil)
  obtain ⟨-, -, hrestored, hdefault⟩ := display_run stream none false hplain
  exact ⟨hplain, hleft, hdefault hleft, hnested, hrestored [.bright] _ hnested⟩

end Session

end PostfixCalculator.Terminal
