/-
The codes with which the trip planner answers, and the texts that a bundle has for them.

A code has a number that never changes, a description for logs, and a key in the section
`tripPlanner.msgcodes` of a bundle. A text that the planner sends itself goes before the bundle's.
-/
import TripLocale.Bundle.Lookup

namespace TripLocale

/-- The codes that the planner answers with. -/
inductive MessageCode where
  | planOk
  | geocodeFromAmbiguous
  | geocodeToAmbiguous
  | geocodeFromToAmbiguous
  | outsideBounds
  | pathNotFound
  | noTransitTimes
  | requestTimeout
  | tooClose
  | bogusParameter
  | geocodeFromNotFound
  | geocodeToNotFound
  | geocodeFromToNotFound
  | systemError
deriving DecidableEq, Repr

namespace MessageCode

/-- Every code, in ascending order. -/
def all : List MessageCode :=
  [planOk, geocodeFromAmbiguous, geocodeToAmbiguous, geocodeFromToAmbiguous, outsideBounds,
    pathNotFound, noTransitTimes, requestTimeout, tooClose, bogusParameter, geocodeFromNotFound,
    geocodeToNotFound, geocodeFromToNotFound, systemError]

/-- The number on the wire. -/
def number : MessageCode → UInt16
  | planOk => 200
  | geocodeFromAmbiguous => 340
  | geocodeToAmbiguous => 350
  | geocodeFromToAmbiguous => 360
  | outsideBounds => 400
  | pathNotFound => 404
  | noTransitTimes => 406
  | requestTimeout => 408
  | tooClose => 409
  | bogusParameter => 413
  | geocodeFromNotFound => 440
  | geocodeToNotFound => 450
  | geocodeFromToNotFound => 460
  | systemError => 500

/-- What the code means, in English. -/
def description : MessageCode → String
  | planOk => "plan ok"
  | geocodeFromAmbiguous => "origin ambiguous"
  | geocodeToAmbiguous => "destination ambiguous"
  | geocodeFromToAmbiguous => "origin and destination ambiguous"
  | outsideBounds => "trip outside the served area"
  | pathNotFound => "no path found"
  | noTransitTimes => "no transit times available"
  | requestTimeout => "request timed out"
  | tooClose => "origin and destination too close"
  | bogusParameter => "invalid request parameter"
  | geocodeFromNotFound => "origin not geocoded"
  | geocodeToNotFound => "destination not geocoded"
  | geocodeFromToNotFound => "origin and destination not geocoded"
  | systemError => "server error"

/-- The key of the code among the message texts of a bundle: its number in decimal. -/
def key (c : MessageCode) : String := toString c.number.toNat

/-- The code with its description. -/
def display (c : MessageCode) : String := c.key ++ " (" ++ c.description ++ ")"

/-- The code with a number. -/
def ofNumber? (n : UInt16) : Option MessageCode := all.find? fun c => c.number == n

/-- What is said of a number that is no code. -/
def unknownMessage (n : UInt16) : String :=
  "Unknown trip planner message code: " ++ toString n.toNat

/-- The code whose number a text spells. -/
def read? (text : String) : Option MessageCode :=
  match Text.word16 text.toList with
  | .ok n => ofNumber? n
  | .error _ => none

/-- Codes are ordered by their numbers. -/
instance : Ord MessageCode := ⟨fun a b => compare a.number b.number⟩

theorem mem_all (c : MessageCode) : c ∈ all := by cases c <;> decide

/-- The list of all codes ascends. -/
theorem all_ascending : all.Pairwise (fun a b => a.number < b.number) := by decide

/-- A number leads to the code that has it. -/
theorem ofNumber?_eq_some_iff {n : UInt16} {c : MessageCode} :
    ofNumber? n = some c ↔ c.number = n := by
  constructor
  · intro h
    simpa using List.find?_some h
  · rintro rfl
    cases c <;> decide

end MessageCode

namespace Bundle

/-- The place of the message texts in a bundle. -/
def messagesPath : String := "tripPlanner.msgcodes"

/-- The text for a code. -/
def messageFor? (b : Bundle) (c : MessageCode) : Option String :=
  ((b.bundle? messagesPath).bind (·.child? c.key)).bind Value.text?

/-- The text for the code with a number. -/
def messageForNumber? (b : Bundle) (n : UInt16) : Option String :=
  (MessageCode.ofNumber? n).bind b.messageFor?

/-- The text to show for an answer of the planner: what the planner sent, unless that is blank, and else
the text for the number. -/
def responseMessage? (b : Bundle) (n : UInt16) (sent : Option String) : Option String :=
  match sent with
  | some text => if (Text.trim text).isEmpty then b.messageForNumber? n else some text
  | none => b.messageForNumber? n

end Bundle

end TripLocale
