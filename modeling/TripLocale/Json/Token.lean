/-
The tokens of JSON, and a text as a list of them.

`RawToken.scan?` reads a text character by character. Between tokens it skips spaces, tabs and line ends;
a string ends at its closing quote; a literal is the longest run of letters, digits, signs and points.
What a string or a number says is settled when its last character has been read, and the token holds
`none` where it says nothing. `Token.chars` is the compact text of a token.
-/
import TripLocale.Json.Tree

namespace TripLocale.Json

open TripLocale.Text

/-- A token with strings `σ` and numbers `ν`. -/
inductive Token (σ ν : Type) where
  | openBrace
  | closeBrace
  | openBracket
  | closeBracket
  | comma
  | colon
  | null
  | bool (value : Bool)
  | number (value : ν)
  | string (text : σ)
deriving DecidableEq, Repr

/-- A token as read: a string or number that has no value is `none`. -/
abbrev RawToken := Token (Option String) (Option Number)

/-! ## The text of a token -/

/-- The lower-case hexadecimal digit of a number below sixteen. -/
def hexDigit (n : Nat) : Char := if n < 10 then Char.ofNat (48 + n) else Char.ofNat (87 + n)

/-- One character inside a string. Quote and backslash are escaped, controls have escapes of one letter
or by code point, and all other characters stand for themselves. -/
def escapedChar (c : Char) : List Char :=
  if c = '"' || c = '\\' then ['\\', c]
  else if c = '\n' then ['\\', 'n']
  else if c = '\r' then ['\\', 'r']
  else if c = '\t' then ['\\', 't']
  else if c = '\x08' then ['\\', 'b']
  else if c = '\x0c' then ['\\', 'f']
  else if c.toNat < 0x20 then
    ['\\', 'u', '0', '0', hexDigit (c.toNat / 16), hexDigit (c.toNat % 16)]
  else [c]

/-- A text as a JSON string. -/
def stringChars (s : String) : List Char := '"' :: s.toList.flatMap escapedChar ++ ['"']

namespace Token

/-- The compact text of a token. -/
def chars : Token String Number → List Char
  | .openBrace => ['\x7b']
  | .closeBrace => ['\x7d']
  | .openBracket => ['[']
  | .closeBracket => [']']
  | .comma => [',']
  | .colon => [':']
  | .null => ['n', 'u', 'l', 'l']
  | .bool true => ['t', 'r', 'u', 'e']
  | .bool false => ['f', 'a', 'l', 's', 'e']
  | .number n => n.text
  | .string s => stringChars s

/-- The token with its value, if it has one. -/
def settled? : RawToken → Option (Token String Number)
  | .openBrace => some .openBrace
  | .closeBrace => some .closeBrace
  | .openBracket => some .openBracket
  | .closeBracket => some .closeBracket
  | .comma => some .comma
  | .colon => some .colon
  | .null => some .null
  | .bool b => some (.bool b)
  | .number n => n.map .number
  | .string s => s.map .string

end Token

/-! ## Inside a string -/

/-- One thing written in a string: a character, or a code unit of 16 bits given by its number. -/
inductive Piece where
  | char (c : Char)
  | unit (n : Nat)
deriving DecidableEq, Repr

namespace Piece

/-- The first half of a surrogate pair. -/
def isHigh (n : Nat) : Bool := 0xD800 ≤ n && n < 0xDC00

/-- The second half of a surrogate pair. -/
def isLow (n : Nat) : Bool := 0xDC00 ≤ n && n < 0xE000

/-- The character of a surrogate pair. -/
def pair (high low : Nat) : Char := Char.ofNat (0x10000 + (high - 0xD800) * 0x400 + (low - 0xDC00))

/-- The characters that the pieces say, if every half of a surrogate pair has its other half. -/
def text? : List Piece → Option (List Char)
  | [] => some []
  | .char c :: ps => (text? ps).map (c :: ·)
  | .unit n :: ps =>
    if isHigh n then
      match ps with
      | .unit m :: ps => if isLow m then (text? ps).map (pair n m :: ·) else none
      | _ => none
    else if isLow n then none
    else (text? ps).map (Char.ofNat n :: ·)

end Piece

/-- The character that an escape of one letter stands for. -/
def escapeMeaning? : Char → Option Char
  | '"' => some '"'
  | '\\' => some '\\'
  | '/' => some '/'
  | 'b' => some '\x08'
  | 'f' => some '\x0c'
  | 'n' => some '\n'
  | 'r' => some '\r'
  | 't' => some '\t'
  | _ => none

/-- The number that a hexadecimal digit stands for. -/
def hexValue? (c : Char) : Option Nat :=
  if c.isDigit then some (c.toNat - 48)
  else if 'a' ≤ c && c ≤ 'f' then some (c.toNat - 87)
  else if 'A' ≤ c && c ≤ 'F' then some (c.toNat - 55)
  else none

/-! ## Scanning -/

/-- Where a scan stands. What is unfinished is kept with its latest part first. -/
inductive Mode where
  /-- Between tokens. -/
  | gap
  /-- In a run of letters, digits, signs and points. -/
  | word (run : List Char)
  /-- In a string. -/
  | string (pieces : List Piece)
  /-- After a backslash in a string. -/
  | escape (pieces : List Piece)
  /-- In the digits of a code unit, `missing` of which are still to come. -/
  | unit (pieces : List Piece) (missing value : Nat)
deriving DecidableEq, Repr

/-- The tokens read so far, the latest first, and where the scan stands. -/
structure Scan where
  tokens : List RawToken
  mode : Mode

/-- White space between tokens. -/
def isSpace (c : Char) : Bool := c = ' ' || c = '\t' || c = '\n' || c = '\r'

/-- The characters that literals and numbers are made of. -/
def isWordChar (c : Char) : Bool := c.isAlphanum || c = '+' || c = '-' || c = '.'

/-- The token of one character. -/
def punctuation? : Char → Option RawToken
  | '\x7b' => some .openBrace
  | '\x7d' => some .closeBrace
  | '[' => some .openBracket
  | ']' => some .closeBracket
  | ',' => some .comma
  | ':' => some .colon
  | _ => none

/-- The token that a run is: one of the three literals or a number. -/
def wordToken? (run : List Char) : Option RawToken :=
  if run = ['n', 'u', 'l', 'l'] then some .null
  else if run = ['t', 'r', 'u', 'e'] then some (.bool true)
  else if run = ['f', 'a', 'l', 's', 'e'] then some (.bool false)
  else (NumberLiteral.read? run).map fun l => .number l.value?

namespace Scan

/-- A scan with nothing read. -/
def start : Scan := ⟨[], .gap⟩

/-- The scan after a character between tokens. -/
def fromGap? (tokens : List RawToken) (c : Char) : Option Scan :=
  if isSpace c then some ⟨tokens, .gap⟩
  else if c = '"' then some ⟨tokens, .string []⟩
  else if isWordChar c then some ⟨tokens, .word [c]⟩
  else (punctuation? c).map fun t => ⟨t :: tokens, .gap⟩

/-- The scan after one more character. -/
def step? (s : Scan) (c : Char) : Option Scan :=
  match s.mode with
  | .gap => fromGap? s.tokens c
  | .word run =>
    if isWordChar c then some ⟨s.tokens, .word (c :: run)⟩
    -- the run is over, and the character begins something else
    else (wordToken? run.reverse).bind fun t => fromGap? (t :: s.tokens) c
  | .string ps =>
    if c = '"' then
      some ⟨.string ((Piece.text? ps.reverse).map String.ofList) :: s.tokens, .gap⟩
    else if c = '\\' then some ⟨s.tokens, .escape ps⟩
    else if c.toNat < 0x20 then none
    else some ⟨s.tokens, .string (.char c :: ps)⟩
  | .escape ps =>
    if c = 'u' then some ⟨s.tokens, .unit ps 3 0⟩
    else (escapeMeaning? c).map fun x => ⟨s.tokens, .string (.char x :: ps)⟩
  | .unit ps missing value =>
    (hexValue? c).map fun d =>
      match missing with
      | 0 => ⟨s.tokens, .string (.unit (16 * value + d) :: ps)⟩
      | n + 1 => ⟨s.tokens, .unit ps n (16 * value + d)⟩

/-- The tokens of a finished scan. A string must have been closed. -/
def finish? (s : Scan) : Option (List RawToken) :=
  match s.mode with
  | .gap => some s.tokens.reverse
  | .word run => (wordToken? run.reverse).map fun t => (t :: s.tokens).reverse
  | _ => none

end Scan

/-- The tokens of a text. -/
def scan? (cs : List Char) : Option (List RawToken) := (cs.foldlM Scan.step? Scan.start).bind Scan.finish?

end TripLocale.Json
