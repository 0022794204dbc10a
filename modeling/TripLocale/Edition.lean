/-
Editions: the bundles of the languages that ship.

`Edition.read` reads an edition in a language: the text must be a bundle, have the shape of all bundles
and carry the language's class name. `Edition.bundle` is the shipped edition of a language, read in that
way.
-/
import TripLocale.Edition.Polish
import TripLocale.Language
import TripLocale.Shape.Check
import TripLocale.Text.Numbered

namespace TripLocale

/-- Why a text is no edition in a language. -/
inductive EditionError where
  /-- The text is no bundle. -/
  | bundle (error : BundleError)
  /-- The bundle has another shape. -/
  | shape (language : Language) (errors : List ShapeError)
  /-- The bundle carries another class name. -/
  | className (language : Language) (found : String)
deriving DecidableEq, Repr

/-- The error in words. -/
def EditionError.message : EditionError → String
  | bundle e => e.message
  | shape language errors =>
    "Locale bundle '" ++ language.code ++ "' does not have the expected shape:\n" ++
      Text.numbered (errors.map ShapeError.message)
  | className language found =>
    "Invalid locale value at 'CLASS_NAME': expected '" ++ language.className ++ "', found " ++
      Text.quoted found

namespace Edition

/-- The key of the class name. -/
def classNameKey : String := "CLASS_NAME"

/-- The edition in a language that a text writes. -/
def read (language : Language) (text : String) : Except EditionError Bundle :=
  match Bundle.parse text with
  | .error e => .error (.bundle e)
  | .ok b =>
    if b.shapeErrors ≠ [] then .error (.shape language b.shapeErrors)
    else if b.text? classNameKey = some language.className then .ok b
    else .error (.className language ((b.text? classNameKey).getD ""))

/-- The text of the shipped edition. -/
def text : Language → String
  | .polish => polishText

/-- The shipped edition of a language. -/
def bundle (language : Language) : Except EditionError Bundle := read language (text language)

end Edition

end TripLocale
