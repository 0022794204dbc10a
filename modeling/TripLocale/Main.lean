/-
The command line of the lookup service: requests on standard input, answers on standard output.

Everything that is decided is decided by `CommandLine` and `Bundle.serve`. What is here reads files and
standard input and writes the answers, those to a complete line as soon as it has arrived.
-/
import TripLocale.Service.CommandLine

open TripLocale
open TripLocale.Text (Bytes)

/-- Whether the path leads to a regular file. -/
def isFile (path : Path) : BaseIO Bool := do
  match ← EIO.toBaseIO do (← IO.FS.realPath path.text).metadata with
  | .ok found => return found.type == .file
  | .error _ => return false

/-- The first of the paths that is a regular file, with its content or the reason why it cannot be read. -/
def findFirst? : List Path → IO (Option (Path × Except String Bytes))
  | [] => return none
  | path :: paths => do
    if ← isFile path then
      match ← (IO.FS.readBinFile path.text).toBaseIO with
      | .ok content => return some (path, .ok content.toList)
      | .error e => return some (path, .error (toString e))
    else findFirst? paths

/-- The bytes up to the last line feed, and those behind it. -/
def completeLines (bytes : Bytes) : Bytes × Bytes :=
  let rest := bytes.reverse.takeWhile (· != Text.lineFeed)
  (bytes.take (bytes.length - rest.length), rest.reverse)

/-- Serves standard input to its end, or to the first line that is no text. Tells whether it failed. -/
partial def serveInput (b : Bundle) (separator : String) (pending : Bytes) : IO Bool := do
  let stdin ← IO.getStdin
  let stdout ← IO.getStdout
  let chunk ← stdin.read 65536
  let (complete, rest) :=
    if chunk.isEmpty then (pending, []) else completeLines (pending ++ chunk.toList)
  let transcript := b.serve separator complete
  stdout.putStr transcript.output
  stdout.flush
  if transcript.failed || chunk.isEmpty then return transcript.failed
  serveInput b separator rest

def main (arguments : List String) : IO UInt32 := do
  let start := CommandLine.start arguments (← IO.currentDir).toString
  match CommandLine.prepareRead (← findFirst? (Configuration.candidates start)) with
  | .error e =>
    IO.eprintln e.message
    return 1
  | .ok (b, separator) =>
    let failed ← serveInput b separator []
    return if failed then 1 else 0
