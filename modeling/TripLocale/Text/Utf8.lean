/-
Bytes as text: decoding UTF-8, and the lines of a byte stream.

A line ends at a line feed, and a carriage return right before it belongs to the line end. What
follows the last line feed is a line too, unless it is empty.
-/
namespace TripLocale.Text

/-- A stretch of bytes. -/
abbrev Bytes := List UInt8

/-- The text whose UTF-8 form the bytes are. -/
def decode? (bytes : Bytes) : Option String := String.fromUTF8? ⟨bytes.toArray⟩

/-! ## Lines -/

/-- The line feed. -/
def lineFeed : UInt8 := 10

/-- A terminated line without the carriage return of its line end. -/
def withoutReturn (line : Bytes) : Bytes :=
  if line.getLast? = some 13 then line.dropLast else line

/-- The lines of a stretch of bytes, without their line ends. -/
def lines (bytes : Bytes) : List Bytes :=
  let parts := bytes.splitOn lineFeed
  let unfinished := parts.getLast?.getD []
  parts.dropLast.map withoutReturn ++ if unfinished.isEmpty then [] else [unfinished]

end TripLocale.Text
