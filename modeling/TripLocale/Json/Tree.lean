/-
JSON trees.

`Tree σ ν` is a JSON value whose strings and member names are of type `σ` and whose numbers are of type
`ν`. Two trees matter. A `Json` holds texts and numbers. A `Draft` holds what a literal says only if it
says something: an escape for half of a surrogate pair, or a number beyond every value, has a place in
the tree and no value. Objects keep their members in the order written, repeated names included.
-/
import TripLocale.Json.Number

namespace TripLocale

namespace Json

/-- A JSON value with strings `σ` and numbers `ν`. -/
inductive Tree (σ ν : Type) where
  | null
  | bool (value : Bool)
  | number (value : ν)
  | string (text : σ)
  | array (items : List (Tree σ ν))
  | object (members : List (σ × Tree σ ν))

/-- A JSON text's tree, with the literals that have no value left blank. -/
abbrev Draft := Tree (Option String) (Option Number)

end Json

/-- A JSON value. -/
abbrev Json := Json.Tree String Json.Number

namespace Json

/-- An array of strings. -/
def ofTexts (texts : List String) : Json := .array (texts.map .string)

/-! ## Nesting -/

namespace Tree

variable {σ ν : Type}

mutual

/-- How many arrays and objects lie around the innermost value. -/
def depth : Tree σ ν → Nat
  | .array items => depthItems items + 1
  | .object members => depthMembers members + 1
  | _ => 0

/-- The largest depth among items. -/
def depthItems : List (Tree σ ν) → Nat
  | [] => 0
  | j :: js => max (depth j) (depthItems js)

/-- The largest depth among the values of members. -/
def depthMembers : List (σ × Tree σ ν) → Nat
  | [] => 0
  | (_, j) :: ms => max (depth j) (depthMembers ms)

end

end Tree

/-! ## Objects without repeats -/

/-- A member put into a list of members: in the place of the name where it is there already, else at the
end. -/
def putMember {α : Type} (name : String) (value : α) : List (String × α) → List (String × α)
  | [] => [(name, value)]
  | (k, v) :: ms => if k = name then (k, value) :: ms else (k, v) :: putMember name value ms

/-- Members without repeated names: each name has its first place and its last value. -/
def withoutRepeats {α : Type} (members : List (String × α)) : List (String × α) :=
  members.foldl (fun ms m => putMember m.1 m.2 ms) []

mutual

/-- The value with no name repeated in any object. -/
def settled : Json → Json
  | .array items => .array (settledItems items)
  | .object members => .object (withoutRepeats (settledMembers members))
  | .null => .null
  | .bool b => .bool b
  | .number n => .number n
  | .string s => .string s

/-- `settled` on every item. -/
def settledItems : List Json → List Json
  | [] => []
  | j :: js => settled j :: settledItems js

/-- `settled` on the value of every member. -/
def settledMembers : List (String × Json) → List (String × Json)
  | [] => []
  | (k, j) :: ms => (k, settled j) :: settledMembers ms

end

/-- Members with distinct names are left as they are. -/
theorem putMember_of_not_mem {α : Type} {name : String} {value : α} {ms : List (String × α)}
    (h : name ∉ ms.map (·.1)) : putMember name value ms = ms ++ [(name, value)] := by
  induction ms with
  | nil => rfl
  | cons m ms ih =>
    obtain ⟨k, v⟩ := m
    simp only [List.map_cons, List.mem_cons, not_or] at h
    simp [putMember, Ne.symm h.1, ih h.2]

end Json

end TripLocale
