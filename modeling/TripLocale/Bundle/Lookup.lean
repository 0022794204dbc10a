/-
Following a key path through a bundle.

A lookup starts at the root and takes one step per segment: into a section by key, into a list, a list of
choices or a choice by position. A text has no inside. A step that cannot be taken ends the lookup, and
the error names the place where it ended by the path walked so far.
-/
import TripLocale.Bundle.Json
import TripLocale.KeyPath.Grammar

namespace TripLocale

/-- What a path leads to: a value under a key, one of the choices under it, or a text within a list or a
choice. -/
inductive Target where
  | value (value : Value)
  | choice (choice : Choice)
  | text (text : String)
deriving DecidableEq

namespace Target

/-- The kind of what was found. -/
def kind : Target → ValueKind
  | value v => v.kind
  | choice _ => .choice
  | text _ => .text

/-- The text, if one was found. -/
def text? : Target → Option String
  | value v => v.text?
  | text t => some t
  | choice _ => none

/-- The choice, if one was found. -/
def choice? : Target → Option Choice
  | choice c => some c
  | _ => none

/-- The value, if a whole one was found. -/
def value? : Target → Option Value
  | value v => some v
  | _ => none

/-- What was found, as JSON. -/
def toJson : Target → Json
  | value v => v.toJson
  | choice c => c.toJson
  | text t => .string t

end Target

/-- Why a step cannot be taken. -/
inductive Stuck where
  /-- The section has no such key. -/
  | noChild
  /-- The list or choice has only `size` places. -/
  | outOfRange (size : Nat)
  /-- There is nothing inside. -/
  | notAContainer (kind : ValueKind)
deriving DecidableEq, Repr

/-- Why a lookup failed. -/
inductive LookupError where
  /-- The text asked for is no key path. -/
  | badPath (error : KeyPathError)
  /-- A section on the way has no child `segment`. -/
  | missingKey (path segment : String)
  /-- The text at `parent` has no children. -/
  | notAContainer (path parent : String) (kind : ValueKind)
  /-- What stands at `parent` has `size` places, and `segment` is none of them. -/
  | indexOutOfRange (path parent segment : String) (size : Nat)
deriving DecidableEq, Repr

namespace LookupError

/-- The error in words. -/
def message : LookupError → String
  | badPath e => e.message
  | missingKey path segment =>
    "Key '" ++ segment ++ "' not found while looking up '" ++ path ++ "'"
  | notAContainer path parent kind =>
    "'" ++ parent ++ "' is " ++ kind.name ++ " and has no children (looking up '" ++ path ++ "')"
  | indexOutOfRange path parent segment size =>
    "Index '" ++ segment ++ "' is out of range for '" ++ parent ++ "' with " ++ toString size ++
      " items (looking up '" ++ path ++ "')"

/-- The error of a lookup of `path` that is stuck behind `walked`. -/
def ofStuck (path walked : String) (segment : Segment) : Stuck → LookupError
  | .noChild => missingKey path segment.text
  | .outOfRange size => indexOutOfRange path walked segment.text size
  | .notAContainer kind => notAContainer path walked kind

end LookupError

namespace Target

/-- One step. -/
def step (r : Target) (s : Segment) : Except Stuck Target :=
  match r with
  | value (.bundle entries) =>
    match Bundle.child? ⟨entries⟩ s.text with
    | some v => .ok (value v)
    | none => .error .noChild
  | value (.list items) =>
    match s.index?.bind (items[·]?) with
    | some t => .ok (text t)
    | none => .error (.outOfRange items.length)
  | value (.choices cs) =>
    match s.index?.bind (cs[·]?) with
    | some c => .ok (choice c)
    | none => .error (.outOfRange cs.length)
  | choice c =>
    match s.index?.bind c.field? with
    | some t => .ok (text t)
    | none => .error (.outOfRange 2)
  | value (.text _) | text _ => .error (.notAContainer .text)

/-- The steps of `segments` from a place that `walked` leads to, on a lookup of `path`. -/
def follow (path separator walked : String) (r : Target) :
    List Segment → Except LookupError Target
  | [] => .ok r
  | s :: segments =>
    match r.step s with
    | .ok next => follow path separator (s.appendTo walked separator) next segments
    | .error stuck => .error (.ofStuck path walked s stuck)

end Target

namespace Bundle

/-- What a path leads to, or why it leads nowhere. -/
def lookup (b : Bundle) (path separator : String) : Except LookupError Target :=
  match KeyPath.parse path separator with
  | .ok p => Target.follow path separator "" (.value (.bundle b.entries)) p.segments
  | .error e => .error (.badPath e)

/-- What a path with the default separator leads to, if anything. -/
def get? (b : Bundle) (path : String) : Option Target :=
  (b.lookup path KeyPath.defaultSeparator).toOption

/-- The text at a path. -/
def text? (b : Bundle) (path : String) : Option String := (b.get? path).bind Target.text?

/-- The list at a path. -/
def list? (b : Bundle) (path : String) : Option (List String) :=
  ((b.get? path).bind Target.value?).bind Value.list?

/-- The choices at a path. -/
def choices? (b : Bundle) (path : String) : Option (List Choice) :=
  ((b.get? path).bind Target.value?).bind Value.choices?

/-- The choice at a path. -/
def choice? (b : Bundle) (path : String) : Option Choice := (b.get? path).bind Target.choice?

/-- The section at a path. -/
def bundle? (b : Bundle) (path : String) : Option Bundle :=
  ((b.get? path).bind Target.value?).bind Value.bundle?

end Bundle

end TripLocale
