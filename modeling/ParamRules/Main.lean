import ParamRules.Command.Run
import ParamRules.Text.Quoted

/-!
# The program

Reads what a command line needs from the file system, the standard input and the
environment, and prints the result: text to the standard output, log lines and failures
to the standard error.  Of the log filters, it knows those that are the name of one level.
-/

namespace ParamRules

/-- The text of a stream of bytes, if it is UTF-8. -/
def textOfBytes? (bytes : ByteArray) : Option String :=
  if h : bytes.IsValidUTF8 then some (String.fromUTF8 bytes h) else none

/-- The paths that an invocation reads. -/
def pathsOf : Invocation → List String
  | .run _ (.check request) => [request.rules, request.payload]
  | .run _ (.inspect rules) => [rules]
  | _ => []

/-- Reads a file as text. -/
def readText? (path : String) : IO (Option String) := do
  try
    return textOfBytes? (← IO.FS.readBinFile path)
  catch _ =>
    return none

/-- Reads the standard input to its end. -/
def readInput : IO (Option String) := do
  let input ← IO.getStdin
  let mut bytes := ByteArray.empty
  let mut chunk ← input.read 65536
  while chunk.size != 0 do
    bytes := bytes ++ chunk
    chunk ← input.read 65536
  return textOfBytes? bytes

end ParamRules

open ParamRules in
/-- Runs the command line. -/
def main (arguments : List String) : IO UInt32 := do
  let invocation := Invocation.ofArguments arguments
  let mut files : List (String × Option String) := []
  let mut input : Option String := some ""
  for path in pathsOf invocation do
    if isStandardInput path then
      input ← readInput
    else
      files := (path, ← readText? path) :: files
  let mut environment : List (String × Option String) := []
  for name in
      [Settings.surfacingVariable, Settings.statusVariable, "PARAMGUARD_LOG", "RUST_LOG"] do
    environment := (name, ← IO.getEnv name) :: environment
  let result := invocation.result
    { file := fun path => (files.lookup path).join
      input
      variableOf := fun name => (environment.lookup name).join
      filterOf? := LogFilter.ofLevelName? }
  for event in result.log do
    IO.eprintln (event.line Text.quoted)
  IO.print result.output
  match result.failure with
  | some failure => IO.eprintln ("error: " ++ failure.message)
  | none => pure ()
  return result.code.toUInt32
