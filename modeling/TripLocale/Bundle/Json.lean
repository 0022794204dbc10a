/-
Bundles as JSON: objects for sections, strings for texts, arrays of strings for lists and arrays of
`[value, label]` arrays for choices.

`Value.toJson` writes a value in that form. `Bundle.ofJson` reads one: anything else in the tree is a
misfit, reported with its place, and so is a key that an object repeats. Members are read in order, and a
repeat is reported only when every value of its object has been read, so the first fault in reading order
is the one reported. An empty array is an empty list.
-/
import TripLocale.Bundle.Basic
import TripLocale.Json.Reader
import TripLocale.Text.Quoted

namespace TripLocale

/-! ## Writing -/

/-- A choice as an array of its value and its label. -/
def Choice.toJson (c : Choice) : Json := Json.ofTexts [c.value, c.label]

namespace Value

mutual

/-- A value as JSON. -/
def toJson : Value → Json
  | text t => .string t
  | list items => Json.ofTexts items
  | choices cs => .array (cs.map Choice.toJson)
  | bundle entries => .object (entriesToJson entries)

/-- Entries as the members of an object. -/
def entriesToJson : List (String × Value) → List (String × Json)
  | [] => []
  | (k, v) :: es => (k, toJson v) :: entriesToJson es

end

end Value

/-- A bundle as a JSON object. -/
def Bundle.toJson (b : Bundle) : Json := .object (Value.entriesToJson b.entries)

/-! ## Reading -/

/-- What does not fit at a place in the tree. -/
inductive Misfit where
  /-- The root is no object. -/
  | root
  /-- A value that is no string, array or object. -/
  | value (found : String)
  /-- An item that is no choice, in an array that is no list of strings. -/
  | choice (found : String)
deriving DecidableEq, Repr

/-- Why a text is no bundle. -/
inductive BundleError where
  /-- The text is no JSON. -/
  | malformed
  /-- The value at `path` does not fit. -/
  | misfit (path : String) (misfit : Misfit)
  /-- An object repeats the key at `path`. -/
  | duplicateKey (path : String)
deriving DecidableEq, Repr

/-- The misfit in words. -/
def Misfit.message : Misfit → String
  | root => "the bundle must be a JSON object"
  | value found => "expected a string, array or object, found " ++ found
  | choice found => "expected a [value, label] pair of strings, found " ++ found

/-- The error in words. -/
def BundleError.message : BundleError → String
  | malformed => "Failed to parse locale bundle: the text is not JSON"
  | misfit path m => "Invalid locale value at '" ++ path ++ "': " ++ m.message
  | duplicateKey path => "Duplicate key '" ++ path ++ "' in locale bundle"

/-- A JSON value as messages show it. -/
def Json.describe : Json → String
  | .null => "null"
  | .bool b => if b then "true" else "false"
  | .number n => String.ofList n.text
  | .string s => Text.quoted s
  | .array _ => "an array"
  | .object _ => "an object"

/-- The texts of the items, if all are strings. -/
def Json.texts? : List Json → Option (List String)
  | [] => some []
  | .string s :: js => (texts? js).map (s :: ·)
  | _ :: _ => none

/-- The choice that an item of an array is. -/
def Choice.ofJson (path : String) : Json → Except BundleError Choice
  | .array [.string value, .string label] => .ok ⟨value, label⟩
  | j => .error (.misfit path (.choice j.describe))

/-- The choices that the items of the array at `path` are, from position `i` on. -/
def Choice.ofItems (path : String) (i : Nat) : List Json → Except BundleError (List Choice)
  | [] => .ok []
  | j :: js => do
    let c ← ofJson (path ++ "[" ++ toString i ++ "]") j
    let cs ← ofItems path (i + 1) js
    return c :: cs

namespace Value

/-- The list or the choices that an array is. -/
def ofItems (path : String) (items : List Json) : Except BundleError Value :=
  match Json.texts? items with
  | some ts => .ok (list ts)
  | none => choices <$> Choice.ofItems path 0 items

/-- The section that entries make, its keys named below `path`. -/
def ofEntries (path : String) (entries : List (String × Value)) : Except BundleError Value :=
  match Bundle.ofEntries? entries with
  | .ok b => .ok (bundle b.entries)
  | .error key => .error (.duplicateKey (path ++ "." ++ key))

mutual

/-- The value that the JSON at `path` is. -/
def ofJson (path : String) : Json → Except BundleError Value
  | .string t => .ok (text t)
  | .array items => ofItems path items
  | .object members => do
    -- the values come first, so a fault in one of them goes before a repeated key
    let entries ← ofMembers (fun key => path ++ "." ++ key) members
    ofEntries path entries
  | .null => .error (.misfit path (.value "null"))
  | .bool b => .error (.misfit path (.value (if b then "true" else "false")))
  | .number n => .error (.misfit path (.value (String.ofList n.text)))

/-- The entries that members are, where `place` is the path of a member. -/
def ofMembers (place : String → String) :
    List (String × Json) → Except BundleError (List (String × Value))
  | [] => .ok []
  | (k, j) :: ms => do
    let v ← ofJson (place k) j
    let es ← ofMembers place ms
    return (k, v) :: es

end

end Value

namespace Bundle

/-- The bundle that a JSON value is. -/
def ofJson : Json → Except BundleError Bundle
  | .object members => do
    let entries ← Value.ofMembers id members
    match ofEntries? entries with
    | .ok b => .ok b
    | .error key => .error (.duplicateKey key)
  | _ => .error (.misfit "<root>" .root)

/-- The bundle that a JSON text writes. -/
def parse (text : String) : Except BundleError Bundle :=
  match Json.read? text with
  | some j => ofJson j
  | none => .error .malformed

end Bundle

end TripLocale
