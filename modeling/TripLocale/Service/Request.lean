/-
The requests of the lookup service.

A request is a line. Its first word tells what is asked: `keys` for the keys of a section, `flat` for
texts under full keys, `code` with an argument for the text of a message code. Every other line is a key
path as a whole.
-/
import TripLocale.Text.Blank
import TripLocale.Text.Split

namespace TripLocale

/-- What a line asks for. -/
inductive Request where
  /-- The value at a path. -/
  | value (path : String)
  /-- The keys of the section at a path; of the root, if the path is empty. -/
  | keys (path : String)
  /-- The texts at and below a full key; all texts, if the key is empty. -/
  | flat (top : String)
  /-- The text for the message code whose number is spelled. -/
  | code (number : String)
deriving DecidableEq, Repr

namespace Request

/-- The path, key or number that the request is about. -/
def subject : Request → String
  | value s => s
  | keys s => s
  | flat s => s
  | code s => s

/-- The first word of a line, and what follows it without the blanks around. -/
def splitWord (line : List Char) : List Char × List Char :=
  match Text.cut? Text.isBlank line with
  | some (word, rest) => (word, Text.trimBlanks rest)
  | none => (line, [])

/-- The request that a line makes. -/
def parse (line : String) : Request :=
  let (word, argument) := splitWord line.toList
  if word = "keys".toList then keys (String.ofList argument)
  else if word = "flat".toList then flat (String.ofList argument)
  else if word = "code".toList && !argument.isEmpty then code (String.ofList argument)
  else value line

end Request

end TripLocale
