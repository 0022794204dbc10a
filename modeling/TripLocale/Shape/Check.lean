/-
Checking a bundle against its shape.

The check goes through the table in order and reports what is missing, of the wrong kind or of the wrong
length, a section's own report standing at the section's place; after the keys of a section come those
that it should not have, in the order of the bundle. A bundle has the shape when nothing is reported.
-/
import TripLocale.Shape.Table

namespace TripLocale

/-- A difference between a bundle and its shape. -/
inductive ShapeError where
  | missingKey (path : String)
  | unexpectedKey (path : String)
  | wrongKind (path : String) (expected found : ValueKind)
  | wrongLength (path : String) (expected found : Nat)
deriving DecidableEq, Repr

/-- The difference in words. -/
def ShapeError.message : ShapeError → String
  | missingKey path => "missing key '" ++ path ++ "'"
  | unexpectedKey path => "unexpected key '" ++ path ++ "'"
  | wrongKind path expected found =>
    "'" ++ path ++ "' should be " ++ expected.name ++ ", found " ++ found.name
  | wrongLength path expected found =>
    "'" ++ path ++ "' should have " ++ toString expected ++ " items, found " ++ toString found

namespace Shape

/-- The keys of a section that `known` does not hold, where `place` is the path of a key. -/
def unexpected (place : String → String) (known : String → Bool) (b : Bundle) : List ShapeError :=
  (b.keys.filter fun k => !known k).map fun k => .unexpectedKey (place k)

/-- The report on the text for a message code. -/
def checkMessage (place : String → String) (b : Bundle) (c : MessageCode) : List ShapeError :=
  match b.child? c.key with
  | some (.text _) => []
  | some v => [.wrongKind (place c.key) .text v.kind]
  | none => [.missingKey (place c.key)]

/-- The report on a section of message texts: every code has one, and every key spells a code. -/
def checkMessages (place : String → String) (b : Bundle) : List ShapeError :=
  MessageCode.all.flatMap (checkMessage place b) ++
    unexpected place (fun k => (MessageCode.read? k).isSome) b

mutual

/-- The report on a value at `path`. -/
def check (path : String) (v : Value) : Shape → List ShapeError
  | text =>
    match v with
    | .text _ => []
    | v => [.wrongKind path .text v.kind]
  | list size =>
    match v with
    | .list items => if items.length = size then [] else [.wrongLength path size items.length]
    | v => [.wrongKind path .list v.kind]
  | choices =>
    match v with
    | .choices _ => []
    | v => [.wrongKind path .choices v.kind]
  | fields entries =>
    match v with
    | .bundle es =>
      checkFields (fun k => path ++ "." ++ k) ⟨es⟩ entries ++
        unexpected (fun k => path ++ "." ++ k) (fun k => entries.any (·.1 == k)) ⟨es⟩
    | v => [.wrongKind path .bundle v.kind]
  | messages =>
    match v with
    | .bundle es => checkMessages (fun k => path ++ "." ++ k) ⟨es⟩
    | v => [.wrongKind path .bundle v.kind]

/-- The report on the keys that a section should have, where `place` is the path of a key. -/
def checkFields (place : String → String) (b : Bundle) : List (String × Shape) → List ShapeError
  | [] => []
  | (k, shape) :: rest =>
    (match b.child? k with
      | some v => check (place k) v shape
      | none => [.missingKey (place k)]) ++ checkFields place b rest

end

end Shape

/-- The differences between a bundle and the shape of all bundles. -/
def Bundle.shapeErrors (b : Bundle) : List ShapeError :=
  Shape.checkFields id b Shape.root ++
    Shape.unexpected id (fun k => Shape.root.any (·.1 == k)) b

end TripLocale
