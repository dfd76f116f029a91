import PostfixCalculator.Proofs.Terminal.Buffer

/-!
# Complete lines on the stream

Whatever a buffering writer is asked to write, and however that is cut into texts, the stream has
all of it up to the last line feed after every call, and the writer keeps the rest.
-/
namespace PostfixCalculator.Terminal

open Text

/-- What a printer is asked to write, and when to pass lines on. -/
inductive Request where
  | write (text : List Char)
  | rawWrite (text : List Char)
  | newline
  | flush
  deriving DecidableEq, Repr

namespace Request

def text : Request → List Char
  | write text | rawWrite text => text
  | newline => ['\n']
  | flush => []

/-- What a request comes to for the writer. -/
def call : Request → Call
  | write text | rawWrite text => .write text
  | newline => .newline
  | flush => .flush

end Request

def requested (requests : List Request) : List Char := requests.flatMap Request.text

/-- The stream has the longest part of the text, from its start, that leaves no line open, and the
writer keeps the rest. -/
structure Writer.Holds (w : Writer) (text : List Char) : Prop where
  sent : w.output <+: text
  ends : EndsLine w.output
  longest : ∀ other, other <+: text → EndsLine other → other <+: w.output
  rest : w.output ++ w.pendingText = text
  kept : '\n' ∉ w.pendingText

namespace Printer

def ask (p : Printer) : Request → Printer
  | .write text => p.write text
  | .rawWrite text => p.rawWrite text
  | .newline => p.newline
  | .flush => p.flush false

def askAll (p : Printer) (requests : List Request) : Printer := requests.foldl ask p

lemma writer_askAll (p : Printer) (requests : List Request) :
    (p.askAll requests).writer = p.writer.run (requests.map Request.call) := by
  induction requests generalizing p with
  | nil => rfl
  | cons r requests ih =>
    have hstep : (p.ask r).writer = p.writer.call r.call := by cases r <;> rfl
    exact (ih (p.ask r)).trans (congrArg (Writer.run · _) hstep)

end Printer

lemma written_map_call (requests : List Request) :
    written (requests.map Request.call) = requested requests := by
  have htext : Call.text ∘ Request.call = Request.text := by
    funext r
    cases r <;> rfl
  rw [written, List.flatMap_map, requested]
  exact congrArg (requests.flatMap ·) htext

namespace Writer

variable {w : Writer} {text : List Char} {calls : List Call}

lemma orderly_of_given (hraw : w.raw = false) (hgiven : w.given = []) : w.Orderly := by
  obtain ⟨houtput, hpending⟩ := List.append_eq_nil_iff.1 hgiven
  refine ⟨fun htrue => ?_, fun _ => .inl houtput, hpending ▸ List.not_mem_nil⟩
  cases hraw.symm.trans htrue

lemma Orderly.holds (h : w.Orderly) (hraw : w.raw = false) : w.Holds w.given := by
  obtain ⟨houtput, -⟩ := h.output_eq hraw
  refine ⟨List.prefix_append _ _, h.sent hraw, fun other hstart hends => ?_, rfl, h.kept⟩
  rw [houtput]
  exact prefix_completed hstart hends

lemma holds_run (hraw : w.raw = false) (hgiven : w.given = []) (calls : List Call) :
    (w.run calls).Holds (written calls) := by
  obtain ⟨horderly, hall⟩ := (orderly_of_given hraw hgiven).run calls
  have hholds := horderly.holds ((frame_run w calls).1.trans hraw)
  rwa [hall, hgiven, List.nil_append] at hholds

end Writer

/-- A buffering writer that was given nothing yet is asked to write texts, to end lines and to
flush, in any order. After every call the stream has the longest part of what was written, from its
start, that leaves no line open, the writer keeps the rest, and nothing that was sent is taken
back. A printer over it does the same, and does not tell a raw text from any other. -/
theorem holds_written {w : Writer} (hraw : w.raw = false) (hgiven : w.given = []) :
    (∀ calls, (w.run calls).Holds (written calls)) ∧
    (∀ calls more, (w.run calls).output <+: (w.run (calls ++ more)).output) ∧
    ∀ p : Printer, p.writer = w →
      (∀ requests, (p.askAll requests).writer.Holds (requested requests)) ∧
      ∀ requests more, (p.askAll requests).writer.output <+:
        (p.askAll (requests ++ more)).writer.output := by
  have hholds := Writer.holds_run hraw hgiven
  have hgrows : ∀ calls more, (w.run calls).output <+: (w.run (calls ++ more)).output := by
    intro calls more
    have hsent := (hholds calls).sent
    have hwritten : written calls <+: written (calls ++ more) := by
      rw [written, written, List.flatMap_append]
      exact List.prefix_append _ _
    exact (hholds (calls ++ more)).longest _ (hsent.trans hwritten) (hholds calls).ends
  refine ⟨hholds, hgrows, ?_⟩
  rintro p rfl
  refine ⟨fun requests => ?_, fun requests more => ?_⟩
  · rw [p.writer_askAll, ← written_map_call]
    exact hholds _
  · rw [p.writer_askAll, p.writer_askAll, List.map_append]
    exact hgrows _ _

/-- On standard output, a text with line feeds at odd places between texts without one. -/
theorem holds_written_standard :
    let w := Writer.onStream ⟨some true, some 1⟩ false
    let calls : List Call := [.write ['a'], .write ['b', '\n', '\n', 'c'], .flush, .write ['d']]
    w.raw = false ∧ w.given = [] ∧ (w.run calls).Holds (written calls) ∧
      (w.run calls).output = ['a', 'b', '\n', '\n'] ∧ (w.run calls).pendingText = ['c', 'd'] := by
  intro w calls
  exact ⟨rfl, rfl, (holds_written rfl rfl).1 calls, by decide, by decide⟩

end PostfixCalculator.Terminal
