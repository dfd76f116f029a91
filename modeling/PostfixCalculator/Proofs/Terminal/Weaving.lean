import PostfixCalculator.Proofs.Terminal.Session

/-!
# Codes woven into a text

A printer with colours sends what it sends without colours, with codes woven in. Codes alone in the
line buffer count as an open line, and a final flush then sends a line feed that is not sent without
colours. This is the only way in which colours change the visible text.
-/
namespace PostfixCalculator.Terminal

open Text

/-- The first text is the second with codes woven in. -/
inductive Weave : List Char → List Char → Prop
  | nil : Weave [] []
  | char {x : Char} {a b : List Char} (hx : x ≠ '\x1b') (h : Weave a b) : Weave (x :: a) (x :: b)
  | code (k : Code) {a b : List Char} (h : Weave a b) : Weave (k.chars ++ a) b

namespace Weave

variable {a b a' b' : List Char}

lemma append (h : Weave a b) (h' : Weave a' b') : Weave (a ++ a') (b ++ b') := by
  induction h with
  | nil => exact h'
  | char hx h ih => exact .char hx ih
  | code k h ih => exact List.append_assoc .. ▸ .code k ih

lemma ofPlain {text : List Char} (h : '\x1b' ∉ text) : Weave text text := by
  induction text with
  | nil => exact .nil
  | cons x text ih =>
    obtain ⟨hx, htext⟩ := not_or.1 (mt List.mem_cons.2 h)
    exact .char (Ne.symm hx) (ih htext)

lemma ofCode (k : Code) : Weave k.chars [] := List.append_nil k.chars ▸ .code k .nil

lemma newline : Weave ['\n'] ['\n'] := ofPlain (by decide)

lemma eq_nil (h : Weave [] b) : b = [] := by
  generalize ha : ([] : List Char) = a at h
  cases h with
  | nil => rfl
  | char hx h => cases ha
  | code k h => simp [Code.chars] at ha

lemma receiveAll (h : Weave a b) {d : Display} (hmode : d.mode = .text) :
    (d.receiveAll a).mode = .text ∧ (d.receiveAll a).shown = d.shown ++ b := by
  induction h generalizing d with
  | nil => exact ⟨hmode, (List.append_nil _).symm⟩
  | @char x a b hx h ih =>
    have hreceive : d.receiveAll [x] = { d with shown := d.shown ++ [x] } :=
      Display.receiveAll_plain hmode (by simpa using Ne.symm hx)
    obtain ⟨hmode', hshown⟩ := ih (d := d.receiveAll [x]) (hreceive ▸ hmode)
    refine ⟨hmode', hshown.trans ?_⟩
    rw [hreceive]
    simp
  | code k h ih =>
    rw [Display.receiveAll_append, Display.receiveAll_code hmode]
    exact ih hmode

theorem visible_eq (h : Weave a b) : visible a = b := (h.receiveAll rfl).2

lemma newline_notMem_chars (k : Code) : '\n' ∉ k.chars := by
  cases k with
  | bright => decide
  | resetAll => decide
  | foreground f =>
    cases f with
    | reset => decide
    | shade hue light => cases hue <;> cases light <;> decide

lemma modifyHead {f g : List Char → List Char} {as bs : List (List Char)}
    (h : List.Forall₂ Weave as bs) (hf : ∀ a b, Weave a b → Weave (f a) (g b)) :
    List.Forall₂ Weave (as.modifyHead f) (bs.modifyHead g) := by
  cases h with
  | nil => exact .nil
  | cons hfirst hrest => exact .cons (hf _ _ hfirst) hrest

lemma splitLines (h : Weave a b) : List.Forall₂ Weave (splitLines a) (splitLines b) := by
  induction h with
  | nil => exact .cons .nil .nil
  | @char x a b hx h ih =>
    by_cases hline : x = '\n'
    · subst hline
      rw [splitLines_newline, splitLines_newline]
      exact .cons .nil ih
    · rw [splitLines_cons hline, splitLines_cons hline]
      exact modifyHead ih fun _ _ => .char hx
  | @code k a b h ih =>
    have hlines := modifyHead (g := id) ih fun _ _ => .code k
    rw [List.modifyHead_id, id] at hlines
    rwa [splitLines_append (newline_notMem_chars k)]

theorem completed_openLine (h : Weave a b) :
    Weave (completed a) (completed b) ∧ Weave (openLine a) (openLine b) := by
  have hlines := h.splitLines
  -- the open lines come first once the lines are reversed
  rw [splitLines_eq a, splitLines_eq b, ← List.forall₂_reverse_iff, List.reverse_concat,
    List.reverse_concat, List.forall₂_cons, List.forall₂_reverse_iff] at hlines
  obtain ⟨hopen, hended⟩ := hlines
  refine ⟨?_, hopen⟩
  unfold completed
  generalize (Text.splitLines a).dropLast = as, (Text.splitLines b).dropLast = bs at hended
  induction hended with
  | nil => exact .nil
  | cons hfirst hrest ih => exact (hfirst.append newline).append ih

end Weave

/-- The first text is the second with that many line feeds put in. -/
inductive Padded : ℕ → List Char → List Char → Prop
  | nil : Padded 0 [] []
  | char (x : Char) {n : ℕ} {a b : List Char} (h : Padded n a b) : Padded n (x :: a) (x :: b)
  | newline {n : ℕ} {a b : List Char} (h : Padded n a b) : Padded (n + 1) ('\n' :: a) b

namespace Padded

variable {m n : ℕ} {a b a' b' : List Char}

lemma refl (text : List Char) : Padded 0 text text := by
  induction text with
  | nil => exact .nil
  | cons x text ih => exact .char x ih

lemma append (h : Padded m a b) (h' : Padded n a' b') : Padded (m + n) (a ++ a') (b ++ b') := by
  induction h with
  | nil => exact (Nat.zero_add n).symm ▸ h'
  | char x h ih => exact .char x ih
  | newline h ih => exact Nat.succ_add .. ▸ .newline ih

lemma length_eq (h : Padded n a b) : a.length = b.length + n := by
  induction h with
  | nil => rfl
  | char x h ih =>
    rw [List.length_cons, List.length_cons, ih]
    omega
  | newline h ih =>
    rw [List.length_cons, ih]
    omega

lemma eq_iff (h : Padded n a b) : a = b ↔ n = 0 := by
  constructor
  · rintro rfl
    have hlength := h.length_eq
    omega
  · intro hn
    induction h with
    | nil => rfl
    | char x h ih => rw [ih hn]
    | newline h ih => cases hn

end Padded

namespace Writer

/-- The first writer has the texts of the second with codes woven in, and `extra` more line feeds. -/
structure Twin (extra : ℕ) (c p : Writer) : Prop where
  raw : c.raw = p.raw
  depth : c.depth = p.depth
  orderly : c.Orderly ∧ p.Orderly
  sent : ∃ text, Weave c.output text ∧ Padded extra text p.output
  kept : Weave c.pendingText p.pendingText
  held : c.pending = none → p.pending = none

namespace Twin

variable {extra : ℕ} {c p : Writer} {text : List Char}

lemma start (raw : Bool) : Twin 0 { raw := raw } { raw := raw } where
  raw := rfl
  depth := rfl
  orderly := ⟨orderly_start raw, orderly_start raw⟩
  sent := ⟨[], .nil, .nil⟩
  kept := .nil
  held := id

lemma settle (h : Twin extra c p) (hraw : p.raw = false) {a b : List Char} (hw : Weave a b) :
    Twin extra (c.settle a) (p.settle b) := by
  obtain ⟨hcompleted, hopen⟩ := hw.completed_openLine
  obtain ⟨sent, hsent, hpadded⟩ := h.sent
  refine ⟨h.raw, h.depth, ⟨h.orderly.1.settle (h.raw.trans hraw) a, h.orderly.2.settle hraw b⟩,
    ⟨sent ++ completed b, ?_, ?_⟩, ?_, fun hnone => ?_⟩
  · exact output_settle c a ▸ hsent.append hcompleted
  · exact output_settle p b ▸ hpadded.append (.refl _)
  · rwa [pendingText_settle, pendingText_settle]
  · rw [pending_settle, pendingText_settle] at hnone ⊢
    exact (hnone ▸ hopen).eq_nil

lemma write (h : Twin extra c p) (htext : '\x1b' ∉ text) :
    Twin extra (c.write text) (p.write text) := by
  have hw := Weave.ofPlain htext
  have horderly := And.intro (h.orderly.1.write text).1 (h.orderly.2.write text).1
  cases hraw : p.raw with
  | true =>
    have hcraw := h.raw.trans hraw
    obtain ⟨sent, hsent, hpadded⟩ := h.sent
    rw [Writer.write_raw hcraw, Writer.write_raw hraw] at horderly ⊢
    refine ⟨h.raw, h.depth, horderly, ⟨sent ++ text, ?_, ?_⟩, h.kept, h.held⟩
    · exact output_send c text ▸ hsent.append hw
    · exact output_send p text ▸ hpadded.append (.refl text)
  | false =>
    have hcraw := h.raw.trans hraw
    by_cases hline : '\n' ∈ text
    · rw [write_line hcraw hline, write_line hraw hline]
      exact h.settle hraw (h.kept.append hw)
    · rw [write_part hcraw hline, write_part hraw hline] at horderly ⊢
      exact ⟨h.raw, h.depth, horderly, h.sent, h.kept.append hw, fun hnone => by cases hnone⟩

lemma code (h : Twin extra c p) (k : Code) : Twin extra (c.write k.chars) p := by
  have hw := Weave.ofCode k
  have horderly := And.intro (h.orderly.1.write k.chars).1 h.orderly.2
  cases hraw : c.raw with
  | true =>
    obtain ⟨sent, hsent, hpadded⟩ := h.sent
    rw [Writer.write_raw hraw] at horderly ⊢
    refine ⟨h.raw, h.depth, horderly, ⟨sent, ?_, hpadded⟩, h.kept, h.held⟩
    rw [output_send, ← List.append_nil sent]
    exact hsent.append hw
  | false =>
    rw [write_part hraw (Weave.newline_notMem_chars k)] at horderly ⊢
    refine ⟨h.raw, h.depth, horderly, h.sent, ?_, fun hnone => by cases hnone⟩
    rw [← List.append_nil p.pendingText]
    exact h.kept.append hw

lemma flush (h : Twin extra c p) : Twin extra (c.flush false) (p.flush false) := by
  cases hraw : p.raw with
  | true =>
    rw [flush_of_none (h.orderly.1.raw (h.raw.trans hraw)), flush_of_none (h.orderly.2.raw hraw)]
    exact h
  | false =>
    rw [flush_false, flush_false]
    exact h.settle hraw h.kept

/-- A final flush that finds codes alone sends a line feed too many. -/
lemma flush_final (h : Twin extra c p) :
    Twin (extra + if c.pending ≠ none ∧ p.pending = none then 1 else 0) (c.flush true)
      (p.flush true) := by
  cases hc : c.pending with
  | none =>
    rw [flush_of_none hc, flush_of_none (h.held hc), if_neg (by simp)]
    exact h
  | some line =>
    have hkept := h.kept
    have hcraw := h.orderly.1.raw_of_some hc
    rw [pendingText, hc, Option.getD_some] at hkept
    cases hp : p.pending with
    | some line' =>
      rw [pendingText, hp, Option.getD_some] at hkept
      rw [flush_of_some hc, flush_of_some hp, if_neg (by simp)]
      exact h.settle (h.raw.symm.trans hcraw) (hkept.append .newline)
    | none =>
      -- what is kept is codes alone, and they are sent with a line feed
      rw [pendingText_of_none hp] at hkept
      obtain ⟨sent, hsent, hpadded⟩ := h.sent
      obtain ⟨hraw, hdepth⟩ := c.frame_flush true
      have hclosed : (c.flush true).pending = none := pending_close c
      have hout : (c.flush true).output = c.output ++ (line ++ ['\n']) := by
        change c.close.output = _
        rw [output_close h.orderly.1, given, pendingText, hc]
        simp
      rw [flush_of_none hp, if_pos (by simp)]
      refine ⟨hraw.trans h.raw, hdepth.trans h.depth, ⟨(h.orderly.1.flush true).1, h.orderly.2⟩,
        ⟨sent ++ ['\n'], ?_, ?_⟩, ?_, fun _ => hp⟩
      · rw [hout]
        exact hsent.append (hkept.append .newline)
      · exact List.append_nil p.output ▸ hpadded.append (.newline .nil)
      · rw [pendingText_of_none hclosed, pendingText_of_none hp]
        exact .nil

lemma withDepth (h : Twin extra c p) {m n : ℕ} (hdepth : m = n) :
    Twin extra { c with depth := m } { p with depth := n } where
  raw := h.raw
  depth := hdepth
  orderly := ⟨h.orderly.1.withDepth m, h.orderly.2.withDepth n⟩
  sent := h.sent
  kept := h.kept
  held := h.held

lemma enter (h : Twin extra c p) : Twin extra c.enter p.enter :=
  h.withDepth (congrArg (· + 1) h.depth)

lemma leave (h : Twin extra c p) :
    Twin (extra + if p.depth ≤ 1 ∧ c.pending ≠ none ∧ p.pending = none then 1 else 0) c.leave
      p.leave := by
  have hleft := h.withDepth (congrArg (· - 1) h.depth)
  by_cases hlast : p.depth ≤ 1
  · rw [leave_last hlast, leave_last (h.depth ▸ hlast)]
    simpa only [hlast, true_and] using hleft.flush_final
  · rw [leave_inner hlast, leave_inner (h.depth ▸ hlast), if_neg fun hfinal => hlast hfinal.1]
    exact hleft

theorem visible_output (h : Twin extra c p) : Padded extra (visible c.output) p.output := by
  obtain ⟨sent, hsent, hpadded⟩ := h.sent
  rwa [hsent.visible_eq]

end Twin

end Writer

lemma Printer.twin_sendCodes {extra : ℕ} {p : Printer} {w : Writer}
    (h : Writer.Twin extra p.writer w) (codes : List Code) :
    Writer.Twin extra (p.sendCodes codes).writer w := by
  induction codes generalizing p with
  | nil => exact h
  | cons code codes ih => exact ih (p := p.sendCode code) (h.code code)

lemma Printer.raw_sendCodes (p : Printer) (codes : List Code) :
    (p.sendCodes codes).writer.raw = p.writer.raw := by
  induction codes generalizing p with
  | nil => rfl
  | cons code codes ih =>
    exact (ih (p.sendCode code)).trans (p.writer.frame_write code.chars).1

lemma Scope.exists_painted (fore : Option Foreground) (bright : Bool) (paints : List Paint) :
    ∃ fore' bright', paints.foldl Scope.add (.painted fore bright) = .painted fore' bright' := by
  induction paints generalizing fore bright with
  | nil => exact ⟨fore, bright, rfl⟩
  | cons paint paints ih => cases paint <;> exact ih _ _

lemma Printer.scope_colored {p : Printer} (h : p.colored = true) {paints : List Paint}
    (hpaints : paints ≠ []) : ∃ fore bright, p.scope paints = .painted fore bright := by
  rw [scope, if_neg (by simpa using hpaints), if_pos h]
  exact Scope.exists_painted none false paints

lemma Printer.scope_plain {p : Printer} (h : p.colored = false) {paints : List Paint}
    (hpaints : paints ≠ []) : p.scope paints = .plain := by
  rw [scope, if_neg (by simpa using hpaints), if_neg (by simp [h])]

lemma Printer.leave_whole {e : Entered} (h : e.scope = .whole) (p : Printer) :
    p.leave e = { p with writer := p.writer.leave } := by rw [leave, h]

lemma Printer.leave_painted {e : Entered} {fore : Option Foreground} {bright : Bool}
    (h : e.scope = .painted fore bright) (p : Printer) :
    p.leave e = { p.sendCodes (endCodes e fore bright) with fore := e.fore, bright := e.bright } := by
  rw [leave, h]

lemma Printer.leave_plain {e : Entered} (h : e.scope = .plain) (p : Printer) : p.leave e = p := by
  rw [leave, h]

def Step.KeepsColor : Step → Prop
  | .setColored _ => False
  | _ => True

instance : (step : Step) → Decidable step.KeepsColor
  | .setColored _ => inferInstanceAs (Decidable False)
  | .write _ | .newline | .flush _ | .enter _ | .leave => inferInstanceAs (Decidable True)

namespace Session

/-- The step is a final flush: one that is asked for, or the end of the outermost scope of the whole
printer. -/
def completes (s : Session) : Step → Bool
  | .flush final => final
  | .leave => s.entered.head?.any (·.scope == .whole) && s.printer.writer.depth ≤ 1
  | _ => false

/-- The step is a final flush that finds something in the line buffer with colours (`c`) and nothing
without (`p`). -/
def Strays (c p : Session) (step : Step) : Prop :=
  p.completes step = true ∧ c.printer.writer.pending ≠ none ∧ p.printer.writer.pending = none

instance (c p : Session) (step : Step) : Decidable (Strays c p step) :=
  inferInstanceAs (Decidable (_ ∧ _ ∧ _))

/-- A scope with colours and the same scope without. -/
inductive Faded : Entered → Entered → Prop
  | whole {e e' : Entered} (h : e.scope = .whole) (h' : e'.scope = .whole) : Faded e e'
  | painted {e e' : Entered} {fore : Option Foreground} {bright : Bool}
      (h : e.scope = .painted fore bright) (h' : e'.scope = .plain) : Faded e e'

/-- The same session with colours and without. -/
structure Alike (extra : ℕ) (c p : Session) : Prop where
  twin : Writer.Twin extra c.printer.writer p.printer.writer
  colored : c.printer.colored = true
  plain : p.printer.colored = false
  entered : List.Forall₂ Faded c.entered p.entered

variable {extra : ℕ} {c p : Session} {stream : Stream}

lemma alike_start (stream : Stream) (quiet : Bool) :
    Alike 0 (start stream (some true) quiet) (start stream (some false) quiet) :=
  ⟨.start _, rfl, rfl, .nil⟩

lemma Alike.enter (h : Alike extra c p) (paints : List Paint) :
    Alike extra (c.step stream (.enter paints)) (p.step stream (.enter paints)) := by
  by_cases hpaints : paints = []
  · subst hpaints
    exact ⟨h.twin.enter, h.colored, h.plain, .cons (.whole rfl rfl) h.entered⟩
  · obtain ⟨fore, bright, hscope⟩ := Printer.scope_colored h.colored hpaints
    have hplain := Printer.scope_plain h.plain hpaints
    obtain ⟨-, -, hcolored⟩ := c.printer.frame_sendCodes (Printer.startCodes fore bright)
    unfold step
    dsimp only
    rw [hscope, hplain]
    exact ⟨Printer.twin_sendCodes h.twin _, hcolored.trans h.colored, h.plain,
      .cons (.painted rfl rfl) h.entered⟩

lemma Alike.leave (h : Alike extra c p) :
    Alike (extra + if Strays c p .leave then 1 else 0) (c.step stream .leave)
      (p.step stream .leave) := by
  obtain ⟨c, opened⟩ := c
  obtain ⟨p, opened'⟩ := p
  obtain ⟨htwin, hcolored, hplain, hentered⟩ := h
  cases hentered with
  | nil =>
    rw [if_neg (by simp [Strays, completes])]
    exact ⟨htwin, hcolored, hplain, .nil⟩
  | @cons e e' rest rest' hfaded hrest =>
    cases hfaded with
    | whole hscope hscope' =>
      have hstrays : Strays ⟨c, e :: rest⟩ ⟨p, e' :: rest'⟩ .leave ↔
          p.writer.depth ≤ 1 ∧ c.writer.pending ≠ none ∧ p.writer.pending = none := by
        simp [Strays, completes, hscope']
      rw [if_congr hstrays rfl rfl, step_leave rfl, step_leave rfl, Printer.leave_whole hscope,
        Printer.leave_whole hscope']
      exact ⟨htwin.leave, hcolored, hplain, hrest⟩
    | @painted fore bright hscope hscope' =>
      obtain ⟨-, -, hsame⟩ := c.frame_sendCodes (Printer.endCodes e fore bright)
      rw [if_neg (by simp [Strays, completes, hscope']), step_leave rfl, step_leave rfl,
        Printer.leave_plain hscope', Printer.leave_painted hscope]
      exact ⟨Printer.twin_sendCodes htwin _, hsame.trans hcolored, hplain, hrest⟩

lemma Alike.step (h : Alike extra c p) (stream : Stream) {step : Step} (hplain : step.IsPlain)
    (hkeeps : step.KeepsColor) :
    Alike (extra + if Strays c p step then 1 else 0) (c.step stream step) (p.step stream step) := by
  cases step with
  | write text =>
    rw [if_neg (by simp [Strays, completes])]
    exact ⟨h.twin.write hplain, h.colored, h.plain, h.entered⟩
  | newline =>
    rw [if_neg (by simp [Strays, completes])]
    exact ⟨h.twin.write (by decide : '\x1b' ∉ ['\n']), h.colored, h.plain, h.entered⟩
  | flush final =>
    cases final with
    | false =>
      rw [if_neg (by simp [Strays, completes])]
      exact ⟨h.twin.flush, h.colored, h.plain, h.entered⟩
    | true =>
      have hstrays : Strays c p (.flush true) ↔
          c.printer.writer.pending ≠ none ∧ p.printer.writer.pending = none := by
        simp [Strays, completes]
      rw [if_congr hstrays rfl rfl]
      exact ⟨h.twin.flush_final, h.colored, h.plain, h.entered⟩
  | setColored wish => exact hkeeps.elim
  | enter paints =>
    rw [if_neg (by simp [Strays, completes])]
    exact h.enter paints
  | leave => exact h.leave

def strays (stream : Stream) (c p : Session) : List Step → ℕ
  | [] => 0
  | step :: steps =>
    (if Strays c p step then 1 else 0) +
      strays stream (c.step stream step) (p.step stream step) steps

theorem Alike.run (h : Alike extra c p) (stream : Stream) {steps : List Step}
    (hsteps : ∀ step ∈ steps, step.IsPlain ∧ step.KeepsColor) :
    Alike (extra + strays stream c p steps) (c.run stream steps) (p.run stream steps) := by
  induction steps generalizing extra c p with
  | nil => exact h
  | cons step steps ih =>
    obtain ⟨⟨hplain, hkeeps⟩, hsteps⟩ := List.forall_mem_cons.1 hsteps
    rw [strays, ← Nat.add_assoc]
    exact ih (h.step stream hplain hkeeps) hsteps

lemma raw_step (s : Session) (step : Step) :
    (s.step stream step).printer.writer.raw = s.printer.writer.raw := by
  cases step with
  | write text => exact (s.printer.writer.frame_write text).1
  | newline => exact (s.printer.writer.frame_write ['\n']).1
  | flush final => exact (s.printer.writer.frame_flush final).1
  | setColored wish => rfl
  | enter paints =>
    change (s.printer.enter (s.printer.scope paints)).1.writer.raw = _
    cases s.printer.scope paints with
    | whole => rfl
    | plain => rfl
    | painted fore bright => exact s.printer.raw_sendCodes _
  | leave =>
    obtain ⟨p, entered⟩ := s
    cases entered with
    | nil => rfl
    | cons e entered =>
      rw [step_leave rfl]
      cases hscope : e.scope with
      | plain => rw [Printer.leave_plain hscope]
      | painted fore bright =>
        rw [Printer.leave_painted hscope]
        exact p.raw_sendCodes _
      | whole =>
        rw [Printer.leave_whole hscope]
        exact p.writer.raw_leave

lemma Alike.strays_eq_zero (h : Alike extra c p) (hraw : p.printer.writer.raw = true)
    {steps : List Step} (hsteps : ∀ step ∈ steps, step.IsPlain ∧ step.KeepsColor) :
    strays stream c p steps = 0 := by
  induction steps generalizing extra c p with
  | nil => rfl
  | cons step steps ih =>
    obtain ⟨⟨hplain, hkeeps⟩, hsteps⟩ := List.forall_mem_cons.1 hsteps
    have hnone : c.printer.writer.pending = none :=
      h.twin.orderly.1.raw (h.twin.raw.trans hraw)
    rw [strays, if_neg fun hstrays => hstrays.2.1 hnone, Nat.zero_add]
    exact ih (h.step stream hplain hkeeps) (raw_step p step ▸ hraw) hsteps

/-- Without its codes the output of a printer with colours is the output without colours, but for
a line feed too many for each final flush that finds codes alone in the line buffer. A raw printer
sends none. -/
theorem visible_output_run (stream : Stream) (quiet : Bool) {steps : List Step}
    (hsteps : ∀ step ∈ steps, step.IsPlain ∧ step.KeepsColor) :
    let c := start stream (some true) quiet
    let p := start stream (some false) quiet
    let shown := visible (c.run stream steps).printer.close.writer.output
    let output := (p.run stream steps).printer.close.writer.output
    let extra := strays stream c p (steps ++ [.flush true])
    Padded extra shown output ∧ (shown = output ↔ extra = 0) ∧
      (p.printer.writer.raw = true → shown = output) := by
  intro c p shown output extra
  have hclosing : ∀ step ∈ steps ++ [.flush true], step.IsPlain ∧ step.KeepsColor := by
    intro step hstep
    rcases List.mem_append.1 hstep with hstep | hstep
    · exact hsteps step hstep
    · exact List.mem_singleton.1 hstep ▸ ⟨trivial, trivial⟩
  have hclose : ∀ s : Session, (s.run stream (steps ++ [.flush true])).printer =
      (s.run stream steps).printer.close := by
    intro s
    rw [run_append]
    rfl
  have hpadded := ((alike_start stream quiet).run stream hclosing).twin.visible_output
  rw [hclose, hclose, Nat.zero_add] at hpadded
  refine ⟨hpadded, hpadded.eq_iff, fun hraw => hpadded.eq_iff.2 ?_⟩
  exact (alike_start stream quiet).strays_eq_zero hraw hclosing

/-- A red line that is ended inside its scope leaves the code that ends the scope alone in the line
buffer. -/
theorem visible_output_red_line :
    let stream : Stream := ⟨some true, some 1⟩
    let steps : List Step := [.enter [.color (.shade .red false)], .write ['a', '\n'], .leave]
    visible ((start stream (some true) false).run stream steps).printer.close.writer.output =
        ['a', '\n', '\n'] ∧
      ((start stream (some false) false).run stream steps).printer.close.writer.output =
        ['a', '\n'] := by
  decide

/-- The code that ends a scope goes out with the line feed after it, and from a raw printer at
once. -/
theorem visible_output_run_line :
    let steps : List Step := [.enter [], .enter [.color (.shade .red false)], .write ['a'], .leave,
      .newline, .leave]
    let shown := fun stream : Stream =>
      visible ((start stream (some true) false).run stream steps).printer.close.writer.output
    (∀ step ∈ steps, step.IsPlain ∧ step.KeepsColor) ∧
      shown ⟨some true, some 1⟩ = ['a', '\n'] ∧ shown ⟨some true, some 7⟩ = ['a', '\n'] := by
  intro steps shown
  have hsteps : ∀ step ∈ steps, step.IsPlain ∧ step.KeepsColor := by decide
  obtain ⟨-, hsame, -⟩ := visible_output_run ⟨some true, some 1⟩ false hsteps
  obtain ⟨-, -, hraw⟩ := visible_output_run ⟨some true, some 7⟩ false hsteps
  exact ⟨hsteps, (hsame.2 (by decide)).trans (by decide), (hraw rfl).trans (by decide)⟩

end Session

end PostfixCalculator.Terminal
