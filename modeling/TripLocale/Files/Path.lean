/-
File paths as they are written, and the directories that a path lies in.

A path keeps every piece between its slashes, so that its text is not changed by going up or down. An
empty piece says nothing, and neither does a dot, unless a relative path begins with it; the other pieces
are steps. `ancestors` goes up by dropping steps from the end. It looks at the text alone: two dots are a
step like any other.
-/
import TripLocale.Text.Split

namespace TripLocale

/-- The pieces of a path between its slashes, after the first slash of an absolute one. -/
structure Path where
  absolute : Bool
  pieces : List String
deriving DecidableEq, Repr

namespace Path

/-- The path that a text writes. -/
def ofString (text : String) : Path :=
  match text.toList with
  | '/' :: cs => ⟨true, (Text.splitOn ['/'] cs).map String.ofList⟩
  | cs => ⟨false, (Text.splitOn ['/'] cs).map String.ofList⟩

/-- The text of a path. -/
def text (p : Path) : String := (if p.absolute then "/" else "") ++ "/".intercalate p.pieces

/-- Whether a piece says nothing. -/
def isIdle (piece : String) : Bool := piece == "" || piece == "."

/-- The path `q` taken from the directory `p`. -/
def join (p q : Path) : Path :=
  if q.absolute then q
  else ⟨p.absolute, (if p.pieces.getLast? = some "" then p.pieces.dropLast else p.pieces) ++ q.pieces⟩

/-! ## Going up -/

/-- Whether a piece in front of which `before` stands is a step: it says something, or it is the dot that
a relative path begins with. -/
def isStep (absolute : Bool) (piece : String) (before : List String) : Bool :=
  !isIdle piece || (piece == "." && before.isEmpty && !absolute)

/-- Pieces, the last one first, without those behind the last step. -/
def settle (absolute : Bool) : List String → List String
  | [] => []
  | piece :: before => if isStep absolute piece before then piece :: before else settle absolute before

/-- The paths above the one whose pieces are given, the last one first. -/
def above (absolute : Bool) : List String → List Path
  | [] => []
  | piece :: before =>
    if isStep absolute piece before then
      ⟨absolute, (settle absolute before).reverse⟩ :: above absolute before
    else above absolute before

/-- The path and all paths above it, the nearest first. -/
def ancestors (p : Path) : List Path := p :: above p.absolute p.pieces.reverse

/-- What a path goes on with behind the directory `base`, piece by piece as written. -/
def from? (base p : Path) : Option Path :=
  if base.absolute == p.absolute && base.pieces.isPrefixOf p.pieces then
    some ⟨false, p.pieces.drop base.pieces.length⟩
  else none

end Path

end TripLocale
