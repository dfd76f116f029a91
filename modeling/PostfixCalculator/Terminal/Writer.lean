import PostfixCalculator.Text.Line

/-!
# Writing complete lines

A raw writer passes every text on at once. Any other writer keeps what follows the last
line feed until the line is complete, or until a final flush completes it.
-/
namespace PostfixCalculator.Terminal

/-- A stream as far as writers care: whether it is a terminal, if it can tell, and its
file number, if it has one. -/
structure Stream where
  terminal : Option Bool
  number : Option Nat
  deriving DecidableEq, Repr

namespace Stream

/-- Whether the stream is standard output or standard error. -/
def isStandard (s : Stream) : Bool := s.number == some 1 || s.number == some 2

/-- A stream that cannot tell is no terminal. -/
def isTerminal (s : Stream) : Bool := s.terminal.getD false

end Stream

/-- The texts that reached the stream, one for each time it was written to; the unfinished
line, if anything was written since the last complete one; and how often the writer was
entered and not yet left. -/
structure Writer where
  raw : Bool
  sent : List (List Char) := []
  pending : Option (List Char) := none
  depth : Nat := 0
  deriving DecidableEq, Repr

namespace Writer

/-- Only lines for standard output and standard error are completed first, and only if
there may be other output to keep apart from. -/
def onStream (stream : Stream) (quiet : Bool) : Writer := { raw := quiet || !stream.isStandard }

/-- All text that reached the stream. -/
def output (w : Writer) : List Char := w.sent.flatten

def pendingText (w : Writer) : List Char := w.pending.getD []

/-- Sends lines, each followed by a line feed of its own. -/
def sendLines (w : Writer) (lines : List (List Char)) : Writer :=
  { w with sent := w.sent ++ lines.flatMap fun line => [line, ['\n']] }

/-- Sends the complete lines of a text and keeps the rest. -/
def settle (w : Writer) (text : List Char) : Writer :=
  let parts := Text.splitLines text
  let rest := parts.getLastD []
  { w.sendLines parts.dropLast with pending := if rest.isEmpty then none else some rest }

/-- Sends complete lines; a final flush completes an unfinished line. -/
def flush (w : Writer) (final : Bool) : Writer :=
  match w.pending with
  | none => w
  | some line => w.settle (if final then line ++ ['\n'] else line)

def write (w : Writer) (text : List Char) : Writer :=
  if w.raw then { w with sent := w.sent ++ [text] }
  else if text.contains '\n' then w.settle (w.pendingText ++ text)
  else { w with pending := some (w.pendingText ++ text) }

def close (w : Writer) : Writer := w.flush true

def enter (w : Writer) : Writer := { w with depth := w.depth + 1 }

/-- Leaving the writer for the last time completes an unfinished line. -/
def leave (w : Writer) : Writer :=
  let left := { w with depth := w.depth - 1 }
  if left.depth == 0 then left.flush true else left

end Writer

end PostfixCalculator.Terminal
