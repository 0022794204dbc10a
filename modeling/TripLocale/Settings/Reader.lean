/-
Reading settings from JSON.

Settings are an object with the members `keySeparator` and `language`, each a string and each at most
once, in any order; a missing one takes its default. Other members are passed over: their values have to
be JSON in form only, so that a number too large for any value or half of a surrogate pair does no harm
there. An array gives the two settings by position.
-/
import TripLocale.Json.Reader
import TripLocale.Settings.Basic

namespace TripLocale.Settings

open TripLocale.Json (Draft)

/-- The settings met so far. -/
structure Found where
  keySeparator : Option String
  language : Option String

namespace Found

/-- Nothing met. -/
def empty : Found := ⟨none, none⟩

/-- The settings met, and the defaults for the others. -/
def complete (p : Found) : Settings :=
  ⟨p.keySeparator.getD default.keySeparator, p.language.getD default.language⟩

/-- One more member. Its name must have a value, and a setting is a string that is met once. -/
def add? (p : Found) : Option String × Draft → Option Found
  | (some "keySeparator", j) =>
    match p.keySeparator, j with
    | none, .string (some s) => some ⟨some s, p.language⟩
    | _, _ => none
  | (some "language", j) =>
    match p.language, j with
    | none, .string (some s) => some ⟨p.keySeparator, some s⟩
    | _, _ => none
  | (some _, _) => some p
  | (none, _) => none

end Found

/-- The settings that a JSON value gives. -/
def ofDraft? : Draft → Option Settings
  | .object members => (members.foldlM Found.add? .empty).map Found.complete
  | .array [] => some default
  | .array [.string (some s)] => some ⟨s, default.language⟩
  | .array [.string (some s), .string (some l)] => some ⟨s, l⟩
  | _ => none

/-- The settings that a text gives. -/
def parse? (text : String) : Option Settings := (Draft.read? text).bind ofDraft?

end TripLocale.Settings
