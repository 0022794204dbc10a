/-
Reading JSON: from tokens to a tree.

`Reading` says what may come next, with the containers that are still open beside it, and `step?` takes
one token; there is no look-ahead and no token is read twice. `Draft.read?` accepts the grammar alone, to
any depth. `Json.read?` asks besides that every string and number has a value and that no more than
`Json.depthLimit` containers are open at once.
-/
import TripLocale.Json.Token

namespace TripLocale.Json

/-- A container that waits for a value: an array with its items so far, or an object with its members so
far and the name of the next one. The latest comes first. -/
inductive Frame (σ ν : Type) where
  | items (before : List (Tree σ ν))
  | member (before : List (σ × Tree σ ν)) (name : σ)

/-- What may come next. -/
inductive Reading (σ ν : Type) where
  /-- A value. -/
  | value (around : List (Frame σ ν))
  /-- The first item of an array, or its end. -/
  | firstItem (around : List (Frame σ ν))
  /-- The first name of an object, or its end. -/
  | firstName (around : List (Frame σ ν))
  /-- A name, after a comma. -/
  | name (before : List (σ × Tree σ ν)) (around : List (Frame σ ν))
  /-- The colon after a name. -/
  | colon (before : List (σ × Tree σ ν)) (name : σ) (around : List (Frame σ ν))
  /-- A comma or the end of an array. -/
  | afterItem (items : List (Tree σ ν)) (around : List (Frame σ ν))
  /-- A comma or the end of an object. -/
  | afterMember (members : List (σ × Tree σ ν)) (around : List (Frame σ ν))
  /-- Nothing. -/
  | finished (tree : Tree σ ν)

namespace Reading

variable {σ ν : Type}

/-- A value has been read: it goes into the innermost open container. -/
def close (j : Tree σ ν) : List (Frame σ ν) → Reading σ ν
  | [] => finished j
  | .items before :: around => afterItem (j :: before) around
  | .member before s :: around => afterMember ((s, j) :: before) around

/-- A token where a value must come. One more container may open if fewer than `limit` are open. -/
def begin? (limit : Nat) (around : List (Frame σ ν)) : Token σ ν → Option (Reading σ ν)
  | .null => some (close .null around)
  | .bool b => some (close (.bool b) around)
  | .number n => some (close (.number n) around)
  | .string s => some (close (.string s) around)
  | .openBracket => if around.length < limit then some (firstItem around) else none
  | .openBrace => if around.length < limit then some (firstName around) else none
  | _ => none

/-- One more token. -/
def step? (limit : Nat) : Reading σ ν → Token σ ν → Option (Reading σ ν)
  | value around, t => begin? limit around t
  | firstItem around, .closeBracket => some (close (.array []) around)
  | firstItem around, t => begin? limit (.items [] :: around) t
  | firstName around, .closeBrace => some (close (.object []) around)
  | firstName around, .string s => some (colon [] s around)
  | name before around, .string s => some (colon before s around)
  | colon before s around, .colon => some (value (.member before s :: around))
  | afterItem items around, .comma => some (value (.items items :: around))
  | afterItem items around, .closeBracket => some (close (.array items.reverse) around)
  | afterMember members around, .comma => some (name members around)
  | afterMember members around, .closeBrace => some (close (.object members.reverse) around)
  | _, _ => none

/-- The tree of a finished reading. -/
def tree? : Reading σ ν → Option (Tree σ ν)
  | finished j => some j
  | _ => none

end Reading

/-- The tree that the tokens write, with at most `limit` containers open at once. -/
def Tree.ofTokens? {σ ν : Type} (limit : Nat) (ts : List (Token σ ν)) : Option (Tree σ ν) :=
  (ts.foldlM (Reading.step? limit) (.value [])).bind Reading.tree?

/-! ## Texts -/

/-- How many arrays and objects may lie around a value. -/
def depthLimit : Nat := 127

/-- The draft that a text writes. -/
def Draft.read? (text : String) : Option Draft := do
  let ts ← scan? text.toList
  Tree.ofTokens? ts.length ts

/-- The value that a text writes. -/
def read? (text : String) : Option Json := do
  let raw ← scan? text.toList
  let ts ← raw.mapM Token.settled?
  Tree.ofTokens? depthLimit ts

end TripLocale.Json
