/-
The languages that a bundle ships for.

A language is named by its two-letter code, alone or with a region or script behind a hyphen or an
underscore: `pl`, `pl-PL`, `PL_pl`. Only the part before the first of those counts, and its case does
not.
-/
import TripLocale.Text.Blank
import TripLocale.Text.Lowercase

namespace TripLocale

/-- A language with a shipped bundle. -/
inductive Language where
  | polish
deriving DecidableEq, Repr

namespace Language

/-- All languages with a shipped bundle. -/
def all : List Language := [polish]

/-- The language served where none is configured. -/
def default : Language := polish

/-- The two-letter code. -/
def code : Language → String
  | polish => "pl"

/-- The class name that the language's bundle carries. -/
def className : Language → String
  | polish => "otp.locale.Polish"

/-- A hyphen counts as an underscore. -/
def underscored (c : Char) : Char := if c = '-' then '_' else c

/-- A code in lower case and without the blanks around it, with underscores for hyphens. -/
def normalized (code : List Char) : List Char :=
  (Text.lowercase (Text.trimBlanks code)).map underscored

/-- The part of a normalized code before its first underscore. -/
def primaryTag (cs : List Char) : List Char := cs.takeWhile (· != '_')

/-- The language that a code names. -/
def ofCode? (code : String) : Option Language :=
  let tag := primaryTag (normalized code.toList)
  all.find? fun l => l.code.toList == tag

/-- Every language is named by its own code. -/
theorem ofCode?_code (l : Language) : ofCode? l.code = some l := by cases l; decide

end Language

end TripLocale
