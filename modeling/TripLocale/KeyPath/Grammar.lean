/-
The grammar of key paths.

A path is cut into chunks at the separator; a chunk is a key and any number of indexes in brackets, such
as `months[0]` or `mode[0][1]`. The key may be missing in the first chunk only, and only before an
index. Chunks are read from the left and the first one outside the grammar names the error.
-/
import TripLocale.KeyPath.Basic
import TripLocale.Text.Split

namespace TripLocale

/-- Why a chunk is outside the grammar. -/
inductive ChunkFault where
  /-- There is no key where one must be. -/
  | emptySegment
  /-- A bracket is not closed. -/
  | unclosedBracket
  /-- There is something other than digits in brackets. -/
  | invalidIndex (index : String)
  /-- A bracket is closed that was not opened, or something else than a bracket follows one. -/
  | trailingText
deriving DecidableEq, Repr

/-- Why a text is no key path. -/
inductive KeyPathError where
  /-- There is nothing to read. -/
  | empty
  /-- A chunk of the path is outside the grammar. -/
  | chunk (path : String) (fault : ChunkFault)
deriving DecidableEq, Repr

/-- The error in words. -/
def KeyPathError.message : KeyPathError → String
  | empty => "Key path is empty"
  | chunk path .emptySegment => "Key path '" ++ path ++ "' contains an empty segment"
  | chunk path .unclosedBracket => "Key path '" ++ path ++ "' has an unclosed '['"
  | chunk path (.invalidIndex index) =>
    "Key path '" ++ path ++ "' has an invalid index '" ++ index ++ "': only digits are allowed"
  | chunk path .trailingText => "Key path '" ++ path ++ "' has unexpected text around ']'"

namespace KeyPath

/-- The indexes of a chunk, read from the end of its key or from within a bracket whose content so far is
`inside`, the latest character first. -/
def readIndexes (inside : Option (List Char)) (cs : List Char) : Except ChunkFault (List Segment) :=
  match inside, cs with
  | none, [] => .ok []
  | none, c :: cs => if c = '[' then readIndexes (some []) cs else .error .trailingText
  | some _, [] => .error .unclosedBracket
  | some ds, c :: cs =>
    if c = ']' then
      let text := String.ofList ds.reverse
      if ds.isEmpty || !ds.all Char.isDigit then .error (.invalidIndex text)
      else (Segment.index text :: ·) <$> readIndexes none cs
    else readIndexes (some (c :: ds)) cs

/-- The segments of a chunk. The first chunk of a path may begin with a bracket. -/
def readChunk (first : Bool) (chunk : List Char) : Except ChunkFault (List Segment) :=
  let name := chunk.takeWhile (· != '[')
  let indexes := chunk.dropWhile (· != '[')
  if name.contains ']' then .error .trailingText
  else if name.isEmpty then
    if indexes.isEmpty || !first then .error .emptySegment else readIndexes none indexes
  else (Segment.key (String.ofList name) :: ·) <$> readIndexes none indexes

/-- The segments of chunks that are not the first. -/
def readChunks : List (List Char) → Except ChunkFault (List Segment)
  | [] => .ok []
  | chunk :: chunks => do
    let segments ← readChunk false chunk
    let rest ← readChunks chunks
    return segments ++ rest

/-- The segments of all chunks of a path. -/
def readAll : List (List Char) → Except ChunkFault (List Segment)
  | [] => .ok []
  | chunk :: chunks => do
    let segments ← readChunk true chunk
    let rest ← readChunks chunks
    return segments ++ rest

/-- The key path that a text writes, with `separator` between its keys. An empty separator cuts
nothing. -/
def parse (path separator : String) : Except KeyPathError KeyPath :=
  if path.isEmpty then .error .empty
  else
    match readAll (Text.splitOn separator.toList path.toList) with
    | .ok segments => .ok ⟨segments⟩
    | .error fault => .error (.chunk path fault)

/-- Whether `child` is the text of a place below the one that `parent` names: it goes on from there with
the separator or with a bracket. -/
def isChildKey (child parent separator : String) : Bool :=
  match Text.after? parent.toList child.toList with
  | none => false
  | some rest =>
    !rest.isEmpty &&
      (!separator.isEmpty && separator.toList.isPrefixOf rest || rest.head? == some '[')

end KeyPath

end TripLocale
