import PostfixCalculator.Command.Report

/-!
# The command

Collects what a run depends on, and carries out its writes.
-/
namespace PostfixCalculator.Command

open Batch Terminal

/-- The content of a file, if it can be read. -/
def readFile (path : String) : IO (Except AccessFault (List UInt8)) := do
  try
    let bytes ← IO.FS.readBinFile path
    return .ok bytes.toList
  catch
    | .noFileOrDirectory .. => return .error .missing
    | .inappropriateType .. => return .error .isFolder
    | _ => return .error .missing

/-- All bytes of a stream. -/
partial def readBytes (stream : IO.FS.Stream) (found : ByteArray) : IO ByteArray := do
  let block ← stream.read 8192
  if block.isEmpty then return found else readBytes stream (found ++ block)

/-- What a run needs to read for its source. Standard input ends its lines at line feeds only. -/
def environmentFor (source : Option Source) : IO Environment := do
  let outputTerminal ← (← IO.getStdout).isTty
  let errorsTerminal ← (← IO.getStderr).isTty
  let input ← match source with
    | some .input => pure (← readBytes (← IO.getStdin) .empty).toList
    | _ => pure []
  let content ← match source with
    | some (.file path) => readFile path
    | _ => pure (.error .missing)
  return {
    input := ⟨input, .lineFeed⟩
    files := fun _ => content
    media := MediaTypes.standard.complete
    output := ⟨some outputTerminal, some 1⟩
    errors := ⟨some errorsTerminal, some 2⟩ }

def perform (w : Write) : IO Unit := do
  let stream ← match w.channel with
    | .output => IO.getStdout
    | .errors => IO.getStderr
  stream.putStr (String.ofList w.text)

/-- The status of a run. A crash is described on standard error. -/
def statusOf : Ending → IO UInt32
  | .returned status | .left status => return .ofNat status
  | .crashed crash => do
    IO.eprintln crash.message
    return 1

end PostfixCalculator.Command

open PostfixCalculator.Command in
/-- Runs the command. -/
def main (arguments : List String) : IO UInt32 := do
  let source := (readArguments arguments).toOption.bind Options.source?
  let report := run (← environmentFor source) arguments
  report.writes.forM perform
  statusOf report.ending
