/-
Finding the settings file.

The file is looked for in the start directory and then in the directories above it, as the text of the
path names them. The nearest regular file of that name decides alone: a fault in it is an error and never
a reason to look further. Without a start directory, or without a file, the defaults apply.
-/
import TripLocale.Settings.Configuration

namespace TripLocale.Configuration

open TripLocale.Text (Bytes)

/-- The name of the settings file in its directory. -/
def fileName : Path := ⟨false, [".otp-locale.json"]⟩

/-- The files that may hold the settings for a start directory, the nearest first. -/
def candidates (start : Path) : List Path := start.ancestors.map (·.join fileName)

/-- The nearest candidate that is a regular file, with its content. `content?` is the content of the
regular file that a path leads to. -/
def find? (content? : Path → Option Bytes) (start : Path) : Option (Path × Bytes) :=
  (candidates start).findSome? fun p => (content? p).map (p, ·)

/-- The configuration for a start directory. -/
def load (content? : Path → Option Bytes) (start : Option Path) :
    Except ConfigurationError Configuration :=
  ofFound (start.bind (find? content?))

end TripLocale.Configuration
