/-
How JSON may be written.

The printer writes a value in one way. Here are all ways that the grammar allows: white space around the
tokens, an escape in place of any character of a string, numbers with a fraction and an exponent. A
`Spelling` says of a text which tokens it is made of, and `Draft.Writes` of which tree these are the tokens.
A string may end in half of a surrogate pair, and a number may exceed every value: both are spelled like all
others and say nothing.

What the printer writes is one of these spellings (`spelling_chars`), where neither literals nor numbers stand
in the value (`Draft.writes_render`).
-/
import Mathlib.Tactic.SplitIfs
import TripLocale.Json.Printer
import TripLocale.Proofs.Json.Tree

namespace TripLocale.Json

open TripLocale.Text

/-! ## Strings -/

namespace Piece

/-- The ways to write a piece of a string. -/
inductive Spells : List Char → Piece → Prop where
  | plain {c : Char} : c ≠ '"' → c ≠ '\\' → 0x20 ≤ c.toNat → Spells [c] (.char c)
  | escaped {e c : Char} : escapeMeaning? e = some c → Spells ['\\', e] (.char c)
  | unit {h₃ h₂ h₁ h₀ : Char} {d₃ d₂ d₁ d₀ : Nat} : hexValue? h₃ = some d₃ → hexValue? h₂ = some d₂ →
      hexValue? h₁ = some d₁ → hexValue? h₀ = some d₀ →
        Spells ['\\', 'u', h₃, h₂, h₁, h₀] (.unit (0x1000 * d₃ + 0x100 * d₂ + 0x10 * d₁ + d₀))

/-- The ways to write pieces one after the other. -/
inductive SpellsAll : List Char → List Piece → Prop where
  | nil : SpellsAll [] []
  | cons {cs ds : List Char} {p : Piece} {ps : List Piece} :
      Spells cs p → SpellsAll ds ps → SpellsAll (cs ++ ds) (p :: ps)

/-- The characters that pieces say. A code unit says the character of its number, and a character beyond the
code units is said by the two halves of a surrogate pair. -/
inductive Says : List Piece → List Char → Prop where
  | nil : Says [] []
  | char {c : Char} {ps : List Piece} {cs : List Char} : Says ps cs → Says (.char c :: ps) (c :: cs)
  | unit {c : Char} {ps : List Piece} {cs : List Char} : c.toNat < 0x10000 → Says ps cs →
      Says (.unit c.toNat :: ps) (c :: cs)
  | pair {c : Char} {ps : List Piece} {cs : List Char} : 0x10000 ≤ c.toNat → Says ps cs →
      Says (.unit (0xD800 + (c.toNat - 0x10000) / 0x400) :: .unit (0xDC00 + (c.toNat - 0x10000) % 0x400) :: ps)
        (c :: cs)

end Piece

/-! ## Numbers -/

namespace NumberLiteral

/-- A literal that the grammar allows: one zero or digits that do not begin with one, and digits wherever there
is a point or an exponent. -/
structure WellFormed (l : NumberLiteral) : Prop where
  whole : isCanonical l.whole = true
  fraction : ∀ ds, l.fraction = some ds → ds ≠ [] ∧ ∀ d ∈ ds, d.isDigit = true
  exponent : ∀ negative ds, l.exponent = some (negative, ds) → ds ≠ [] ∧ ∀ d ∈ ds, d.isDigit = true

/-- The point and the digits behind it. -/
def fractionChars : Option (List Char) → List Char
  | none => []
  | some ds => '.' :: ds

/-- The ways to write an exponent. -/
inductive SpellsExponent : List Char → Option (Bool × List Char) → Prop where
  | none : SpellsExponent [] none
  | unsigned {e : Char} {ds : List Char} : e = 'e' ∨ e = 'E' → SpellsExponent (e :: ds) (some (false, ds))
  | plus {e : Char} {ds : List Char} : e = 'e' ∨ e = 'E' → SpellsExponent (e :: '+' :: ds) (some (false, ds))
  | minus {e : Char} {ds : List Char} : e = 'e' ∨ e = 'E' → SpellsExponent (e :: '-' :: ds) (some (true, ds))

/-- The ways to write a literal. -/
inductive Spells : List Char → NumberLiteral → Prop where
  | intro {l : NumberLiteral} {exponent : List Char} : l.WellFormed → SpellsExponent exponent l.exponent →
      Spells ((if l.negative then ['-'] else []) ++ l.whole ++ fractionChars l.fraction ++ exponent) l

end NumberLiteral

/-! ## Tokens -/

namespace Token

/-- The token as a scan gives it. -/
def raw : Token String Number → RawToken
  | .openBrace => .openBrace
  | .closeBrace => .closeBrace
  | .openBracket => .openBracket
  | .closeBracket => .closeBracket
  | .comma => .comma
  | .colon => .colon
  | .null => .null
  | .bool b => .bool b
  | .number n => .number (some n)
  | .string s => .string (some s)

/-- The token ends with its last character, whatever comes next. -/
def selfEnding {σ ν : Type} : Token σ ν → Bool
  | .null | .bool _ | .number _ => false
  | _ => true

@[simp] theorem selfEnding_raw (t : Token String Number) : t.raw.selfEnding = t.selfEnding := by
  cases t <;> rfl

/-- The ways to write a token. -/
inductive Spells : List Char → RawToken → Prop where
  | mark {c : Char} {t : RawToken} : punctuation? c = some t → Spells [c] t
  | null : Spells ['n', 'u', 'l', 'l'] .null
  | true : Spells ['t', 'r', 'u', 'e'] (.bool Bool.true)
  | false : Spells ['f', 'a', 'l', 's', 'e'] (.bool Bool.false)
  | number {cs : List Char} {l : NumberLiteral} : l.Spells cs → Spells cs (.number l.value?)
  | string {cs : List Char} {ps : List Piece} {s : String} : Piece.SpellsAll cs ps → Piece.Says ps s.toList →
      Spells ('"' :: cs ++ ['"']) (.string (some s))
  /-- A string that says nothing. -/
  | broken {cs : List Char} {ps : List Piece} : Piece.SpellsAll cs ps → (∀ s, ¬ Piece.Says ps s) →
      Spells ('"' :: cs ++ ['"']) (.string none)

end Token

/-- The ways to write tokens one after the other, with white space around them. -/
inductive Spelling : List Char → List RawToken → Prop where
  | nil : Spelling [] []
  | space {c : Char} {cs : List Char} {ts : List RawToken} :
      isSpace c = true → Spelling cs ts → Spelling (c :: cs) ts
  | token {cs ds : List Char} {t : RawToken} {ts : List RawToken} :
      Token.Spells cs t → Spelling ds ts → Spelling (cs ++ ds) (t :: ts)

theorem Spelling.mark {c : Char} {t : RawToken} {cs : List Char} {ts : List RawToken}
    (ht : punctuation? c = some t) (h : Spelling cs ts) : Spelling (c :: cs) (t :: ts) :=
  .token (.mark ht) h

/-- The text is one of the ways to write the tree. -/
def Draft.Writes (text : String) (d : Draft) : Prop := Spelling text.toList (tokens d)

/-! ## Values as drafts -/

mutual

/-- The value as a draft: a tree in which everything says something. -/
def draft : Json → Draft
  | .array items => .array (draftItems items)
  | .object members => .object (draftMembers members)
  | .null => .null
  | .bool b => .bool b
  | .number n => .number (some n)
  | .string s => .string (some s)

/-- `draft` on every item. -/
def draftItems : List Json → List Draft
  | [] => []
  | j :: js => draft j :: draftItems js

/-- `draft` on the name and the value of every member. -/
def draftMembers : List (String × Json) → List (Option String × Draft)
  | [] => []
  | (k, j) :: ms => (some k, draft j) :: draftMembers ms

end

theorem tokensItems_draftItems {js : List Json} (h : ∀ j ∈ js, tokens j.draft = (tokens j).map Token.raw) :
    tokensItems (draftItems js) = (tokensItems js).map Token.raw := by
  induction js with
  | nil => rfl
  | cons j js ih =>
    obtain ⟨hj, hjs⟩ := List.forall_mem_cons.1 h
    rw [draftItems, tokensItems, tokensItems, List.map_append, List.map_cons, hj, ih hjs]
    rfl

theorem tokensMembers_draftMembers {ms : List (String × Json)}
    (h : ∀ m ∈ ms, tokens m.2.draft = (tokens m.2).map Token.raw) :
    tokensMembers (draftMembers ms) = (tokensMembers ms).map Token.raw := by
  induction ms with
  | nil => rfl
  | cons m ms ih =>
    obtain ⟨k, j⟩ := m
    obtain ⟨hj, hms⟩ := List.forall_mem_cons.1 h
    simp only [draftMembers, tokensMembers, List.map_append, List.map_cons, hj, ih hms, Token.raw]

/-- The draft of a value has the tokens of the value. -/
theorem tokens_draft (j : Json) : tokens j.draft = (tokens j).map Token.raw := by
  induction j using Tree.induct with
  | null => rfl
  | bool b => rfl
  | number n => rfl
  | string s => rfl
  | array items ih =>
    cases items with
    | nil => rfl
    | cons j js =>
      obtain ⟨hj, hjs⟩ := List.forall_mem_cons.1 ih
      simp only [draft, draftItems, tokens, List.map_append, List.map_cons, hj, tokensItems_draftItems hjs,
        Token.raw]
  | object members ih =>
    cases members with
    | nil => rfl
    | cons m ms =>
      obtain ⟨k, j⟩ := m
      obtain ⟨hj, hms⟩ := List.forall_mem_cons.1 ih
      simp only [draft, draftMembers, tokens, List.map_append, List.map_cons, hj,
        tokensMembers_draftMembers hms, Token.raw]

/-! ## Printed texts -/

theorem hexValue?_hexDigit {n : Nat} (h : n < 16) : hexValue? (hexDigit n) = some n := by
  decide +revert

/-- What is printed for a character of a string writes one piece that says the character. -/
theorem exists_spells_escapedChar (c : Char) : ∃ p, Piece.Spells (escapedChar c) p ∧
    ∀ {ps cs}, Piece.Says ps cs → Piece.Says (p :: ps) (c :: cs) := by
  unfold escapedChar
  split_ifs with hq hn hr ht hb hf hc
  · simp only [Bool.or_eq_true, decide_eq_true_eq] at hq
    refine ⟨.char c, .escaped ?_, .char⟩
    rcases hq with rfl | rfl <;> rfl
  · exact ⟨.char c, .escaped (hn ▸ rfl), .char⟩
  · exact ⟨.char c, .escaped (hr ▸ rfl), .char⟩
  · exact ⟨.char c, .escaped (ht ▸ rfl), .char⟩
  · exact ⟨.char c, .escaped (hb ▸ rfl), .char⟩
  · exact ⟨.char c, .escaped (hf ▸ rfl), .char⟩
  · have hzero : hexValue? '0' = some 0 := by decide
    have hhigh := hexValue?_hexDigit (n := c.toNat / 16) (by omega)
    have hlow := hexValue?_hexDigit (n := c.toNat % 16) (by omega)
    have hunit := Piece.Spells.unit hzero hzero hhigh hlow
    have hn : 0x1000 * 0 + 0x100 * 0 + 0x10 * (c.toNat / 16) + c.toNat % 16 = c.toNat := by omega
    rw [hn] at hunit
    exact ⟨.unit c.toNat, hunit, .unit (by omega)⟩
  · simp only [Bool.or_eq_true, decide_eq_true_eq, not_or] at hq
    exact ⟨.char c, .plain hq.1 hq.2 (by omega), .char⟩

theorem exists_spellsAll_escaped (cs : List Char) :
    ∃ ps, Piece.SpellsAll (cs.flatMap escapedChar) ps ∧ Piece.Says ps cs := by
  induction cs with
  | nil => exact ⟨[], .nil, .nil⟩
  | cons c cs ih =>
    obtain ⟨p, hp, hc⟩ := exists_spells_escapedChar c
    obtain ⟨ps, hps, hcs⟩ := ih
    exact ⟨p :: ps, .cons hp hps, hc hcs⟩

/-- Literals and numbers apart, what is printed for a token writes it. -/
theorem Token.spells_chars {t : Token String Number} (h : t.selfEnding = true) : Token.Spells t.chars t.raw := by
  cases t with
  | null => cases h
  | bool b => cases h
  | number n => cases h
  | string s =>
    obtain ⟨ps, hps, hs⟩ := exists_spellsAll_escaped s.toList
    exact .string hps hs
  | _ => exact .mark rfl

theorem spelling_chars {ts : List (Token String Number)} (h : ∀ t ∈ ts, t.selfEnding = true) :
    Spelling (ts.flatMap Token.chars) (ts.map Token.raw) := by
  induction ts with
  | nil => exact .nil
  | cons t ts ih =>
    obtain ⟨ht, hts⟩ := List.forall_mem_cons.1 h
    exact .token (Token.spells_chars ht) (ih hts)

/-- Neither literals nor numbers stand in the value: each of its tokens ends by itself. -/
def Wordless (j : Json) : Prop := ∀ t ∈ tokens j, t.selfEnding = true

theorem Draft.writes_render {j : Json} (h : Wordless j) : Draft.Writes j.render j.draft := by
  rw [Writes, tokens_draft, render, String.toList_ofList]
  exact spelling_chars h

/-! ### Values without literals and numbers -/

@[simp] theorem wordless_string (s : String) : Wordless (.string s) := by
  simp [Wordless, tokens, Token.selfEnding]

theorem selfEnding_tokensItems_iff {js : List Json} :
    (∀ t ∈ tokensItems js, t.selfEnding = true) ↔ ∀ j ∈ js, Wordless j := by
  induction js with
  | nil => simp [tokensItems, Token.selfEnding]
  | cons j js ih =>
    rw [tokensItems, List.forall_mem_append, List.forall_mem_cons, ih, List.forall_mem_cons]
    simp [Wordless, Token.selfEnding]

theorem selfEnding_tokensMembers_iff {ms : List (String × Json)} :
    (∀ t ∈ tokensMembers ms, t.selfEnding = true) ↔ ∀ m ∈ ms, Wordless m.2 := by
  induction ms with
  | nil => simp [tokensMembers, Token.selfEnding]
  | cons m ms ih =>
    rw [tokensMembers, List.forall_mem_append, ih, List.forall_mem_cons]
    simp [Wordless, Token.selfEnding]

@[simp] theorem wordless_array_iff {items : List Json} : Wordless (.array items) ↔ ∀ j ∈ items, Wordless j := by
  cases items with
  | nil => simp [Wordless, tokens, Token.selfEnding]
  | cons j js =>
    rw [Wordless, tokens, List.forall_mem_append, selfEnding_tokensItems_iff, List.forall_mem_cons]
    simp [Wordless, Token.selfEnding]

@[simp] theorem wordless_object_iff {members : List (String × Json)} :
    Wordless (.object members) ↔ ∀ m ∈ members, Wordless m.2 := by
  cases members with
  | nil => simp [Wordless, tokens, Token.selfEnding]
  | cons m ms =>
    rw [Wordless, tokens, List.forall_mem_append, selfEnding_tokensMembers_iff, List.forall_mem_cons]
    simp [Wordless, Token.selfEnding]

@[simp] theorem wordless_ofTexts (ts : List String) : Wordless (ofTexts ts) := by
  simp [ofTexts]

theorem wordless_settled {j : Json} (h : Wordless j) : Wordless j.settled := by
  induction j using Tree.induct with
  | array items ih =>
    rw [settled, settledItems_eq_map, wordless_array_iff, List.forall_mem_map]
    exact fun j hj => ih j hj (wordless_array_iff.1 h j hj)
  | object members ih =>
    rw [settled, wordless_object_iff, settledMembers_eq_map]
    intro _ hkept
    obtain ⟨m, hm, rfl⟩ := List.mem_map.1 (mem_of_mem_withoutRepeats hkept)
    exact ih m hm (wordless_object_iff.1 h m hm)
  | _ => exact h

end TripLocale.Json
