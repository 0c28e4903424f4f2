import TreeQuery.Invocation.Run
import TreeQuery.Invocation.Usage

/-!
# The program

Reads the command line and the source that it names, carries the invocation out and prints what comes
of it.
-/

namespace TreeQuery

/-- All of standard input. -/
partial def readAll (stream : IO.FS.Stream) (before : ByteArray) : IO ByteArray := do
  let bytes ← stream.read 65536
  if bytes.isEmpty then return before else readAll stream (before ++ bytes)

/-- The text of a source, or why it cannot be had. -/
def readSource (source : Text) : IO Invocation.Input := do
  let invalid := "stream did not contain valid UTF-8".toList
  if source = ['-'] then
    match String.fromUTF8? (← readAll (← IO.getStdin) .empty) with
    | some t => return .ok t.toList
    | none => return .error ("failed to read stdin: ".toList ++ invalid)
  else
    try
      match String.fromUTF8? (← IO.FS.readBinFile (String.ofList source)) with
      | some t => return .ok t.toList
      | none => return .error ("failed to read '".toList ++ source ++ "': ".toList ++ invalid)
    catch
      | .noFileOrDirectory .. => return .error (Invocation.missingFile source)
      | e => return .error ("failed to read '".toList ++ source ++ "': ".toList ++ e.toString.toList)

end TreeQuery

open TreeQuery

/-- Carries out the command line. -/
def main (args : List String) : IO UInt32 := do
  let stdout ← IO.getStdout
  let stderr ← IO.getStderr
  match Usage.read (args.map String.toList) with
  | .error .help =>
    stdout.putStr (String.ofList Usage.summary)
    return 0
  | .error fault =>
    stderr.putStr (String.ofList ("error: ".toList ++ fault.message ++ "\n\n".toList ++ Usage.summary))
    return fault.exitCode.toUInt32
  | .ok invocation =>
    let input ← match invocation.source? with
      | some source => readSource source
      | none => pure (.ok [])
    let outcome := invocation.run (← stdout.isTty) input
    stdout.putStr (String.ofList outcome.output)
    stderr.putStr (String.ofList outcome.errors)
    return outcome.code.toUInt32
