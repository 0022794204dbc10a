/-
Key paths: the address of a value in a bundle.

A path is a list of segments. A key names a child of a section; an index in brackets picks an item of a
list, one of several choices or a field of a choice. On a section an index is read as a key, and on a
list a key that is a number is read as a position: `Segment.text` and `Segment.index?` are the two
readings.
-/
import TripLocale.Text.Numeral

namespace TripLocale

/-- One step of a key path. -/
inductive Segment where
  /-- A plain key. -/
  | key (text : String)
  /-- Digits in brackets. -/
  | index (digits : String)
deriving DecidableEq, Repr

namespace Segment

/-- The segment read as a key. -/
def text : Segment → String
  | key t => t
  | index t => t

/-- The segment read as a position: its text must be the decimal numeral of a number of 64 bits. -/
def index? (s : Segment) : Option Nat := Text.index? s.text.toList

/-- The segment behind a rendered path. The separator comes before a key, unless nothing does. -/
def appendTo (s : Segment) (out separator : String) : String :=
  match s with
  | key t => if out.isEmpty then t else out ++ separator ++ t
  | index t => out ++ "[" ++ t ++ "]"

end Segment

/-- The steps from the root of a bundle to a value. -/
structure KeyPath where
  segments : List Segment
deriving DecidableEq, Repr

namespace KeyPath

/-- The separator between keys where none is configured. -/
def defaultSeparator : String := "."

/-- The text of a path. -/
def render (p : KeyPath) (separator : String) : String :=
  p.segments.foldl (fun out s => s.appendTo out separator) ""

end KeyPath

end TripLocale
