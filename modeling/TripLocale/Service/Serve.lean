/-
The service: lines in, one answer on a line for each.

A line that is blank gets no answer. A line that is not UTF-8 ends the service with a failure, and the
answers to the lines before it stand. No answer depends on another line.
-/
import TripLocale.Service.Respond
import TripLocale.Text.Utf8

namespace TripLocale

open TripLocale.Text (Bytes)

/-- What the service wrote, and whether it ended at a line that is no text. -/
structure Transcript where
  output : String
  failed : Bool
deriving DecidableEq, Repr

namespace Bundle

/-- The answer to a line of text, with its line end; nothing for a blank line. -/
def answerLine (b : Bundle) (separator line : String) : String :=
  let request := Text.trim line
  if request.isEmpty then "" else (b.respond separator (Request.parse request)).line ++ "\n"

/-- The answers to lines, up to the first that is no text. -/
def serveLines (b : Bundle) (separator : String) : List Bytes → Transcript
  | [] => ⟨"", false⟩
  | line :: lines =>
    match Text.decode? line with
    | none => ⟨"", true⟩
    | some text =>
      let rest := serveLines b separator lines
      ⟨b.answerLine separator text ++ rest.output, rest.failed⟩

/-- The answers to all lines of the input. -/
def serve (b : Bundle) (separator : String) (input : Bytes) : Transcript :=
  b.serveLines separator (Text.lines input)

end Bundle

end TripLocale
