import PostfixCalculator.Calculator
import PostfixCalculator.Terminal.Printer
import PostfixCalculator.Terminal.Record

/-!
# Evaluating batches of expressions

The expressions of a batch are evaluated one after the other. A result is printed on a line
of its own; a problem with an expression is logged and the next expression follows. Any
other fault ends the batch, and so does an interruption from outside.
-/
namespace PostfixCalculator.Batch

open Terminal

/-- How expressions are read and what is printed for each. -/
structure Settings where
  fromPostfix : Bool
  toPostfix : Bool
  showExpression : Bool
  deriving DecidableEq, Repr

/-- What happens during a batch, in order: a record is logged, or a text is written to the
stream of the results. -/
inductive Event where
  | logged (r : Record)
  | wrote (text : List Char)
  deriving DecidableEq, Repr

def readingRecord (fromPostfix : Bool) (e : Expression) : Record :=
  if fromPostfix then
    ⟨.debug, "rpncalc.rpn", "Parsed reverse Polish notation " ++ e.text⟩
  else ⟨.debug, "rpncalc.calculator", "Converted to reverse Polish notation: " ++ e.text⟩

def failureRecord (text : String) (fault : Fault) : Record :=
  ⟨.error, "rpncalc", s!"{Text.quote text}: {fault.message}"⟩

def readExpression (settings : Settings) (text : String) : Except Fault Expression :=
  if settings.fromPostfix then Expression.ofPostfix text.toList else parse text.toList

/-- The text of a result: the value, or the expression in postfix order. -/
def resultOf (settings : Settings) (e : Expression) : Except Fault String :=
  if settings.toPostfix then .ok e.text else e.evaluate.map Number.text

/-- The results that are no finite numbers. -/
def isSpecial (result : String) : Bool := ["nan", "inf", "-inf"].contains result

/-- Prints an expression, if asked for, and its result. -/
def printResult (settings : Settings) (text result : String) (p : Printer) : Printer :=
  let p :=
    if settings.showExpression then
      (p.writeIn [.color (.shade .cyan false)] text.toList).writeIn
        [.bright, .color (.shade .white false)] [' ', '=', ' ']
    else p
  let p :=
    if isSpecial result then p.writeIn [.color (.shade .yellow false)] result.toList
    else p.writeIn [.bright, .color (.shade .green false)] result.toList
  p.newline

/-- What is raised while an expression is read or its result is found: a fault, or an
interruption. -/
inductive Trouble where
  | fault (f : Fault)
  | interruption

/-- Whether a batch survives it. -/
def Trouble.isProblem : Trouble → Bool
  | fault f => f.isProblem
  | interruption => false

/-- The parts of the work on an expression before its result is printed. -/
inductive Stage where
  | reading
  | answering
  deriving DecidableEq, Repr

/-- What is raised from outside, by the number of the expression that is worked on and the
part of the work. -/
abbrev Disturbance := Nat → Stage → Option Trouble

/-- The result of a part of the work, unless something is raised from outside. -/
def attempt {α : Type} (raised : Option Trouble) (result : Except Fault α) : Except Trouble α :=
  match raised with
  | some trouble => .error trouble
  | none => result.mapError .fault

/-- A batch so far: the printer, the number of expressions with a problem, the events, and
what ended the batch. -/
structure Progress where
  printer : Printer
  failures : Nat := 0
  events : List Event := []
  ended : Option Trouble := none

namespace Progress

def log (b : Progress) (r : Record) : Progress := { b with events := b.events ++ [.logged r] }

/-- Uses the printer; what it writes to its stream becomes events. -/
def print (b : Progress) (use : Printer → Printer) : Progress :=
  let after := use b.printer
  let written := after.writer.sent.drop b.printer.writer.sent.length
  { b with printer := after, events := b.events ++ written.map .wrote }

/-- Logs a problem with an expression; any other trouble ends the batch. -/
def fail (b : Progress) (text : String) : Trouble → Progress
  | .fault f =>
    if f.isProblem then { b.log (failureRecord text f) with failures := b.failures + 1 }
    else { b with ended := some (.fault f) }
  | .interruption => { b with ended := some .interruption }

def evaluate (settings : Settings) (raised : Stage → Option Trouble) (b : Progress)
    (text : String) : Progress :=
  match attempt (raised .reading) (readExpression settings text) with
  | .error trouble => b.fail text trouble
  | .ok e =>
    let b := b.log (readingRecord settings.fromPostfix e)
    match attempt (raised .answering) (resultOf settings e) with
    | .error trouble => b.fail text trouble
    | .ok result => b.print (printResult settings text result)

/-- Evaluates the next expression, unless the batch has ended. -/
def next (settings : Settings) (raised : Stage → Option Trouble) (b : Progress)
    (text : String) : Progress :=
  if b.ended.isSome then b else b.evaluate settings raised text

end Progress

/-- Evaluates expressions in order; the first of them has the number zero. -/
def evaluateAll (settings : Settings) (raised : Disturbance) (b : Progress) :
    List String → Progress
  | [] => b
  | text :: rest =>
    evaluateAll settings (fun number => raised (number + 1)) (b.next settings (raised 0) text) rest

end PostfixCalculator.Batch
