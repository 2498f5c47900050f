import Notebook.CommandLine.Run

/-!
# The program

Runs on the real environment, files and streams, and for whatever display it is told the widths of.
-/

namespace Notebook

/-- What a failure of the system to read means. -/
def ReadError.ofSystem : IO.Error → ReadError
  | .noFileOrDirectory .. => .notFound
  | .inappropriateType _ 21 _ => .isDirectory
  | .inappropriateType .. => .notDirectory
  | .permissionDenied .. => .denied
  | e => .other (toString e).toList

/-- The text that bytes encode, if they can be read and encode one. -/
def readText (bytes : IO ByteArray) : IO Contents := do
  try
    match String.fromUTF8? (← bytes) with
    | some s => return .ok s.toList
    | none => return .error .notText
  catch e => return .error (.ofSystem e)

/-- Reads a stream to its end, after what has been read of it. -/
partial def readStream (stream : IO.FS.Stream) (before : ByteArray) : IO ByteArray := do
  let more ← stream.read 65536
  if more.isEmpty then return before else readStream stream (before ++ more)

/-- The environment variables that matter to a run. -/
def variableNames : List Text :=
  ["HYPERNOTE_DEFAULT_TITLE".toList, "XDG_CONFIG_HOME".toList, "HOME".toList,
    "CLICOLOR_FORCE".toList, "CLICOLOR".toList, "NO_COLOR".toList] ++
    [NumberSetting.base, .topicWord, .listItem, .minWordLength].map (·.variableName)

/-- The surroundings that the system provides, with the widths of a display. -/
def systemWorld (widths : Widths) : IO (World IO) := do
  let environment ← variableNames.filterMapM fun name => do
    return (← IO.getEnv (String.ofList name)).map fun value => (name, value.toList)
  return {
    environment, widths
    onTerminal := ← (← IO.getStdout).isTty
    read := fun path => readText (IO.FS.readBinFile (String.ofList path))
    input := readText do readStream (← IO.getStdin) .empty }

/-- Runs the program on the arguments it was started with. -/
def runOnSystem (widths : Widths) (arguments : List String) : IO UInt32 := do
  let ending : Ending ← run (← systemWorld widths) (arguments.map String.toList)
  (← IO.getStdout).putStr (String.ofList ending.output)
  (← IO.getStderr).putStr (String.ofList ending.errorOutput)
  return ending.code.toUInt32

end Notebook
