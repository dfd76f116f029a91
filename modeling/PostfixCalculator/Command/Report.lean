import PostfixCalculator.Batch.Evaluation
import PostfixCalculator.Batch.Loading
import PostfixCalculator.Command.Arguments
import PostfixCalculator.Command.Help
import PostfixCalculator.Version

/-!
# Runs of the command

A run is described by the texts that it writes, in order, and by how it ends. It evaluates
the words of its arguments as one expression, or the expressions of a file or of standard
input.
-/
namespace PostfixCalculator.Command

open Batch Terminal

/-- Standard input: its bytes, and which line ends count there. This depends on what it is read from;
the system may hand it over so that line feeds alone end lines. -/
structure Input where
  bytes : List UInt8
  mode : Text.LineMode

/-- Bytes for which no mode is named are read with line ends of all kinds, as a file is. -/
instance : Coe (List UInt8) Input := ⟨fun bytes => ⟨bytes, .universal⟩⟩

/-- What a run depends on besides its arguments. -/
structure Environment where
  input : Input
  files : FileReader
  media : MediaTypes
  output : Stream
  errors : Stream
  disturbance : Disturbance := fun _ _ => none

inductive Channel where
  | output
  | errors
  deriving DecidableEq, Repr

/-- A text that is written to one of the two streams. -/
structure Write where
  channel : Channel
  text : List Char
  deriving DecidableEq, Repr

/-- A fault that nobody handles. -/
inductive Crash where
  | expression (fault : Fault)
  | loading (error : LoadError)
  | input (error : Text.DecodeError)
  | lostValue
  | interrupted

/-- How a run ends: with a status, with a status in the middle of reading its arguments, or
by a crash. -/
inductive Ending where
  | returned (status : Nat)
  | left (status : Nat)
  | crashed (crash : Crash)

def Crash.message : Crash → String
  | expression fault => fault.message
  | loading error => error.message
  | input error => error.message
  | lostValue => "not enough values to unpack (expected 1, got 0)"
  | interrupted => ""

/-- What a run writes, how it ends, and how it ends if a write to standard output is
interrupted. -/
structure Report where
  writes : List Write
  ending : Ending
  interrupted : Ending := .crashed .interrupted

namespace Report

/-- All text that was written to a stream. -/
def text (r : Report) (channel : Channel) : List Char :=
  (r.writes.filter fun w => w.channel == channel).flatMap (·.text)

/-- The writes before the one with a given number among those to standard output, counted
from one; nothing if there are fewer. -/
def before? (count : Nat) : List Write → Option (List Write)
  | [] => none
  | w :: rest =>
    if w.channel == .output then
      if count ≤ 1 then some [] else (before? (count - 1) rest).map (w :: ·)
    else (before? count rest).map (w :: ·)

/-- The run if standard output is interrupted at the write with a given number. -/
def interruptAt (r : Report) (count : Nat) : Report :=
  match before? count r.writes with
  | some writes => { r with writes := writes, ending := r.interrupted }
  | none => r

end Report

def writeTo (channel : Channel) (text : String) : Write := ⟨channel, text.toList⟩

/-- The version numbers on a line; the line end is written apart. -/
def dumpVersion : Report :=
  let numbers := " ".intercalate (versionNumbers.map toString)
  { writes := [writeTo .output numbers, writeTo .output "\n"], ending := .returned 0 }

def versionLine : String := s!"rpncalc version {versionText}\n"

/-- A log that is written to a stream, one record a line. -/
structure Log where
  threshold : Level
  writer : Writer

/-- The writes of a record; a log of a higher level writes nothing. -/
def Log.writes (log : Log) (r : Record) : List Write :=
  if r.isKept log.threshold then
    ((log.writer.write r.line.toList).flush false).sent.map fun text => ⟨.errors, text⟩
  else []

def failure (message : String) : Record := ⟨.error, "rpncalc", message⟩

/-- Where the expressions of a run come from. -/
inductive Source where
  | words (words : List String)
  | input
  | file (path : String)
  deriving DecidableEq, Repr

/-- Words and a file cannot be combined. A dash as a file stands for standard input. -/
def Options.source? (o : Options) : Option Source :=
  match o.file, o.words with
  | some _, _ :: _ => none
  | some path, [] => some (if path == "-" then .input else .file path)
  | none, [] => some .input
  | none, words => some (.words words)

/-- Why there are no expressions: a reason that is logged, or a crash. -/
inductive SourceFault where
  | reported (message : String)
  | crashed (crash : Crash)

def loadExpressions (env : Environment) (media : Option String) (path : String) :
    Except SourceFault (List String) :=
  match findFileType Registry.standard env.media (some path) media with
  | .error e => .error (.reported e.message)
  | .ok fileType =>
    match fileType.format with
    | none => .ok []
    | some format =>
      (loadFile env.files format path).mapError fun e =>
        if e.isReported then .reported e.message else .crashed (.loading e)

def expressionsOf (env : Environment) (o : Options) : Except SourceFault (List String) :=
  match o.source? with
  | none => .error (.reported "An expression cannot be combined with `--file`")
  | some (.words words) => .ok [" ".intercalate words]
  | some .input =>
    (Text.decodeStream env.input.bytes).mapError (fun e => .crashed (.input e))
      |>.map (textExpressions env.input.mode)
  | some (.file path) => loadExpressions env o.mediaType path

def Options.settings (o : Options) : Settings := ⟨o.fromPostfix, o.toPostfix, o.showExpression⟩

/-- Whether no other output has to be kept apart from complete lines. -/
def Options.isPlain (o : Options) : Bool := o.noStatus || o.quiet

def Log.ofOptions (env : Environment) (o : Options) : Log :=
  ⟨o.logLevel, Writer.onStream env.errors o.isPlain⟩

def Log.eventWrites (log : Log) : Event → List Write
  | .logged r => log.writes r
  | .wrote text => [⟨.output, text⟩]

/-- Evaluates expressions with a printer that is entered before and left and closed after. -/
def evaluateWithin (settings : Settings) (raised : Disturbance) (printer : Printer)
    (texts : List String) : Progress :=
  let (inside, entered) := printer.enter .whole
  (evaluateAll settings raised { printer := inside } texts).print fun p => (p.leave entered).close

def failedRecord (failures total : Nat) : Record :=
  ⟨.debug, "rpncalc", s!"{failures} of {total} expressions failed"⟩

/-- Evaluates expressions and prints their results. -/
def reportBatch (env : Environment) (o : Options) (log : Log) (texts : List String) : Report :=
  let printer := Printer.onStream env.output o.color o.isPlain
  let batch := evaluateWithin o.settings env.disturbance printer texts
  let writes := batch.events.flatMap log.eventWrites
  match batch.ended with
  | some (.fault f) =>
    { writes := writes, ending := .crashed (.expression f), interrupted := .returned 1 }
  | some .interruption =>
    { writes := writes, ending := .returned 1, interrupted := .returned 1 }
  | none =>
    if batch.failures == 0 then
      { writes := writes, ending := .returned 0, interrupted := .returned 1 }
    else
      { writes := writes ++ log.writes (failedRecord batch.failures texts.length)
        ending := .returned 1
        interrupted := .returned 1 }

def Report.after (writes : List Write) (r : Report) : Report :=
  { r with writes := writes ++ r.writes }

/-- Reads the expressions and evaluates them. -/
def reportExpressions (env : Environment) (o : Options) : Report :=
  let log := Log.ofOptions env o
  match expressionsOf env o with
  | .ok texts => reportBatch env o log texts
  | .error (.reported message) =>
    { writes := log.writes (failure message), ending := .returned 1 }
  | .error (.crashed crash) => { writes := [], ending := .crashed crash }

def reportOptions (env : Environment) (o : Options) : Report :=
  if o.dumpVersion then dumpVersion
  else if o.version then
    let line := [writeTo .errors versionLine]
    if o.words.isEmpty && o.file.isNone then { writes := line, ending := .returned 0 }
    else (reportExpressions env o).after line
  else reportExpressions env o

def reportStop : Stop → Report
  | .help => { writes := [writeTo .output helpText], ending := .left 0 }
  | .refused refusal =>
    { writes := [writeTo .errors usageText, writeTo .errors (refusalText refusal.message)]
      ending := .left 2 }
  | .lostValue => { writes := [], ending := .crashed .lostValue }

/-- A run with some arguments. -/
def run (env : Environment) (arguments : List String) : Report :=
  match readArguments arguments with
  | .ok o => reportOptions env o
  | .error stop => reportStop stop

end PostfixCalculator.Command
