/-
One run of the service from the command line.

The first argument is the directory to look for settings from, exactly as it is given; without one it is
the working directory. The run fails without answers if the settings or the edition cannot be had. That goes
for a settings file that is there and cannot be read, too: no farther one takes its place.
-/
import TripLocale.Edition
import TripLocale.Files.Tree
import TripLocale.Service.Serve
import TripLocale.Settings.Search

namespace TripLocale.CommandLine

open TripLocale.Text (Bytes)

/-- The directory that a run looks for settings from. -/
def start (arguments : List String) (workingDirectory : String) : Path :=
  Path.ofString (arguments.head?.getD workingDirectory)

/-- Why a run cannot begin. -/
inductive StartError where
  /-- The settings file that was found cannot be read. -/
  | unreadable (reason : String)
  | configuration (error : ConfigurationError)
  | edition (error : EditionError)
deriving DecidableEq, Repr

/-- The error in words. -/
def StartError.message : StartError → String
  | unreadable reason => "Failed to load configuration file: " ++ reason
  | configuration e => e.message
  | edition e => e.message

/-- The bundle and the separator of a run, from the settings file that was found. -/
def prepare (found : Option (Path × Bytes)) : Except StartError (Bundle × String) :=
  match Configuration.ofFound found with
  | .error e => .error (.configuration e)
  | .ok c =>
    match Edition.bundle c.language with
    | .error e => .error (.edition e)
    | .ok b => .ok (b, c.keySeparator)

/-- The bundle and the separator of a run, where the settings file that was found is given with its content or
with the reason why it cannot be read. -/
def prepareRead : Option (Path × Except String Bytes) → Except StartError (Bundle × String)
  | some (_, .error reason) => .error (.unreadable reason)
  | some (source, .ok content) => prepare (some (source, content))
  | none => prepare none

/-- What a run writes, where `content?` reads regular files and `input` is all there is to read. -/
def run (content? : Path → Option Bytes) (start : Path) (input : Bytes) : Transcript :=
  match prepare (Configuration.find? content? start) with
  | .error _ => ⟨"", true⟩
  | .ok (b, separator) => b.serve separator input

end TripLocale.CommandLine
