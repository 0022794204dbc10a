/-
Writing JSON: a value as tokens, and as its compact text.

There is no space between tokens, members stand in their order, and only what a string cannot hold is
escaped.
-/
import TripLocale.Json.Token

namespace TripLocale.Json

variable {σ ν : Type}

mutual

/-- The tokens of a value. -/
def tokens : Tree σ ν → List (Token σ ν)
  | .null => [.null]
  | .bool b => [.bool b]
  | .number n => [.number n]
  | .string s => [.string s]
  | .array [] => [.openBracket, .closeBracket]
  | .array (j :: js) => .openBracket :: tokens j ++ tokensItems js
  | .object [] => [.openBrace, .closeBrace]
  | .object ((k, j) :: ms) => .openBrace :: .string k :: .colon :: tokens j ++ tokensMembers ms

/-- The tokens of the items after the first one, with the end of the array. -/
def tokensItems : List (Tree σ ν) → List (Token σ ν)
  | [] => [.closeBracket]
  | j :: js => .comma :: tokens j ++ tokensItems js

/-- The tokens of the members after the first one, with the end of the object. -/
def tokensMembers : List (σ × Tree σ ν) → List (Token σ ν)
  | [] => [.closeBrace]
  | (k, j) :: ms => .comma :: .string k :: .colon :: tokens j ++ tokensMembers ms

end

/-- The compact text of a value. -/
def render (j : Json) : String := String.ofList ((tokens j).flatMap Token.chars)

end TripLocale.Json
