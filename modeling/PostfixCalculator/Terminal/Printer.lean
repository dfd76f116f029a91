import PostfixCalculator.Terminal.Code
import PostfixCalculator.Terminal.Writer

/-!
# Printing in colour

A printer is a writer that knows the current colour and style. Entering a scope sets them
by codes and leaving it restores what was current before. A printer without colour has
scopes that do nothing.
-/
namespace PostfixCalculator.Terminal

structure Printer where
  writer : Writer
  colored : Bool
  fore : Option Foreground := none
  bright : Bool := false
  deriving DecidableEq, Repr

/-- What can be entered: the printer itself, a scope that does nothing, or a scope with a
colour, a style, or both. -/
inductive Scope where
  | whole
  | plain
  | painted (fore : Option Foreground) (bright : Bool)
  deriving DecidableEq, Repr

/-- A step in building a scope. -/
inductive Paint where
  | color (fore : Foreground)
  | bright
  deriving DecidableEq, Repr

def Scope.add : Scope → Paint → Scope
  | .painted _ bright, .color fore => .painted (some fore) bright
  | .painted fore _, .bright => .painted fore true
  | scope, _ => scope

/-- A scope that was entered, with the colour and style to restore. -/
structure Entered where
  scope : Scope
  fore : Option Foreground
  bright : Bool
  deriving DecidableEq, Repr

namespace Printer

/-- Colour is used if asked for, and by default if the stream is a terminal. -/
def chooseColor (stream : Stream) (wish : Option Bool) : Bool := wish.getD stream.isTerminal

def onStream (stream : Stream) (wish : Option Bool) (quiet : Bool) : Printer where
  writer := Writer.onStream stream quiet
  colored := chooseColor stream wish

def write (p : Printer) (text : List Char) : Printer := { p with writer := p.writer.write text }

/-- Writes a text as it is, such as a code. -/
def rawWrite (p : Printer) (text : List Char) : Printer := { p with writer := p.writer.write text }

def newline (p : Printer) : Printer := p.write ['\n']

def flush (p : Printer) (final : Bool) : Printer := { p with writer := p.writer.flush final }

def close (p : Printer) : Printer := { p with writer := p.writer.close }

def setColored (p : Printer) (stream : Stream) (wish : Option Bool) : Printer :=
  { p with colored := chooseColor stream wish }

def sendCode (p : Printer) (c : Code) : Printer := p.write c.chars

def sendCodes (p : Printer) (codes : List Code) : Printer := codes.foldl sendCode p

/-- The scope that starts from this printer; without steps it is the printer itself. -/
def scope (p : Printer) (steps : List Paint) : Scope :=
  if steps.isEmpty then .whole
  else if p.colored then steps.foldl Scope.add (.painted none false)
  else .plain

/-- The codes that set a colour and a style. -/
def startCodes (fore : Option Foreground) (bright : Bool) : List Code :=
  (if bright then [.bright] else []) ++ (fore.map Code.foreground).toList

def enter (p : Printer) (scope : Scope) : Printer × Entered :=
  let entered : Entered := ⟨scope, p.fore, p.bright⟩
  match scope with
  | .whole => ({ p with writer := p.writer.enter }, entered)
  | .plain => (p, entered)
  | .painted fore bright =>
    let p := p.sendCodes (startCodes fore bright)
    ({ p with fore := fore.or p.fore, bright := bright || p.bright }, entered)

/-- The codes that undo a scope. Resetting the style also resets the colour. -/
def endCodes (e : Entered) (fore : Option Foreground) (bright : Bool) : List Code :=
  if bright && !e.bright then .resetAll :: (e.fore.map Code.foreground).toList
  else if fore.isSome && fore != e.fore then [.foreground (e.fore.getD .reset)]
  else []

def leave (p : Printer) (e : Entered) : Printer :=
  match e.scope with
  | .whole => { p with writer := p.writer.leave }
  | .plain => p
  | .painted fore bright =>
    let p := p.sendCodes (endCodes e fore bright)
    { p with fore := e.fore, bright := e.bright }

/-- Writes a text inside a scope. -/
def writeIn (p : Printer) (steps : List Paint) (text : List Char) : Printer :=
  let (inside, entered) := p.enter (p.scope steps)
  (inside.write text).leave entered

end Printer

end PostfixCalculator.Terminal
