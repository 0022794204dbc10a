/-
Flattening keeps every text: whatever the separator, the texts of the flat list are the strings of the bundle's
JSON in document order, each as often as it stands there (`flatten_texts`).

`Json.strings` reads them off the tree. In the printed document they are the string tokens that no colon follows,
since a colon stands behind every name of a member and behind nothing else (`texts_tokens`).
-/
import TripLocale.Json.Printer
import TripLocale.Proofs.Bundle.Leaves
import TripLocale.Proofs.Json.Tree

namespace TripLocale

namespace Json

/-! ## The strings of a document -/

mutual

/-- The strings of a value in document order, names of members left out. -/
def strings : Json → List String
  | .string s => [s]
  | .array items => stringsItems items
  | .object members => stringsMembers members
  | .null => []
  | .bool _ => []
  | .number _ => []

/-- The strings of items. -/
def stringsItems : List Json → List String
  | [] => []
  | j :: js => strings j ++ stringsItems js

/-- The strings of the values of members. -/
def stringsMembers : List (String × Json) → List String
  | [] => []
  | (_, j) :: ms => strings j ++ stringsMembers ms

end

theorem stringsItems_eq_flatMap (items : List Json) : stringsItems items = items.flatMap strings := by
  induction items with
  | nil => rfl
  | cons j js ih => rw [stringsItems, ih, List.flatMap_cons]

theorem stringsMembers_eq_flatMap (members : List (String × Json)) :
    stringsMembers members = members.flatMap fun m => strings m.2 := by
  induction members with
  | nil => rfl
  | cons m ms ih => rw [stringsMembers, ih, List.flatMap_cons]

theorem strings_ofTexts (ts : List String) : strings (ofTexts ts) = ts := by
  rw [ofTexts, strings, stringsItems_eq_flatMap]
  induction ts with
  | nil => rfl
  | cons t ts ih => rw [List.map_cons, List.flatMap_cons, ih, strings, List.singleton_append]

/-- The string tokens that are values: a colon follows only a name. -/
def Token.texts : List (Token String Number) → List String
  | [] => []
  | .string s :: ts => if ts.head? = some .colon then texts ts else s :: texts ts
  | _ :: ts => texts ts

theorem head?_tokensItems (js : List Json) (rest : List (Token String Number)) :
    (tokensItems js ++ rest).head? ≠ some .colon := by
  cases js <;> simp [tokensItems]

theorem head?_tokensMembers (ms : List (String × Json)) (rest : List (Token String Number)) :
    (tokensMembers ms ++ rest).head? ≠ some .colon := by
  cases ms <;> simp [tokensMembers]

/-- `j.Spoken`: the string tokens of `j` are its strings, where no colon follows the value. -/
def Spoken (j : Json) : Prop := ∀ rest : List (Token String Number), rest.head? ≠ some .colon →
  Token.texts (tokens j ++ rest) = strings j ++ Token.texts rest

theorem texts_tokensItems {js : List Json} (h : ∀ j ∈ js, j.Spoken) (rest : List (Token String Number)) :
    Token.texts (tokensItems js ++ rest) = stringsItems js ++ Token.texts rest := by
  induction js with
  | nil => rfl
  | cons j js ih =>
    obtain ⟨hj, hjs⟩ := List.forall_mem_cons.1 h
    calc Token.texts (tokensItems (j :: js) ++ rest)
      _ = Token.texts (tokens j ++ (tokensItems js ++ rest)) := by simp [tokensItems, Token.texts]
      _ = strings j ++ Token.texts (tokensItems js ++ rest) := hj _ (head?_tokensItems js rest)
      _ = stringsItems (j :: js) ++ Token.texts rest := by rw [ih hjs, stringsItems, List.append_assoc]

theorem texts_tokensMembers {ms : List (String × Json)} (h : ∀ m ∈ ms, m.2.Spoken)
    (rest : List (Token String Number)) :
    Token.texts (tokensMembers ms ++ rest) = stringsMembers ms ++ Token.texts rest := by
  induction ms with
  | nil => rfl
  | cons m ms ih =>
    obtain ⟨k, j⟩ := m
    obtain ⟨hj, hms⟩ := List.forall_mem_cons.1 h
    calc Token.texts (tokensMembers ((k, j) :: ms) ++ rest)
      _ = Token.texts (tokens j ++ (tokensMembers ms ++ rest)) := by simp [tokensMembers, Token.texts]
      _ = strings j ++ Token.texts (tokensMembers ms ++ rest) := hj _ (head?_tokensMembers ms rest)
      _ = stringsMembers ((k, j) :: ms) ++ Token.texts rest := by rw [ih hms, stringsMembers, List.append_assoc]

theorem spoken (j : Json) : j.Spoken := by
  induction j using Tree.induct with
  | null => exact fun _ _ => rfl
  | bool b => exact fun _ _ => rfl
  | number n => exact fun _ _ => rfl
  | string s => exact fun rest h => if_neg h
  -- the bracket or brace that opens a container says as little as a comma
  | array items ih =>
    intro rest _
    cases items with
    | nil => rfl
    | cons j js => exact texts_tokensItems ih rest
  | object members ih =>
    intro rest _
    cases members with
    | nil => rfl
    | cons m ms => exact texts_tokensMembers ih rest

/-- The strings of a value are the values among its string tokens, in the order of the document. -/
theorem texts_tokens (j : Json) : Token.texts (tokens j) = strings j := by
  have h := spoken j [] nofun
  rwa [List.append_nil, Token.texts, List.append_nil] at h

end Json

/-! ## Flattening -/

/-- Where the position of an item does not count, a list by positions is a plain one. -/
theorem map_mapIdx {α β γ : Type} {f : Nat → α → β} {g : β → γ} {h : α → γ}
    (hf : ∀ i x, g (f i x) = h x) (xs : List α) : (xs.mapIdx f).map g = xs.map h := by
  apply List.ext_getElem
  · simp
  · intro i _ _
    simp [hf]

theorem Choice.map_flatten (key : String) (c : Choice) : (c.flatten key).map (·.2) = c.toJson.strings := by
  rw [Choice.toJson, Json.strings_ofTexts]
  rfl

namespace Value

theorem map_flattenEntries {separator : String} {es : List (String × Value)} (full : String → String)
    (h : ∀ e ∈ es, ∀ key, (e.2.flatten separator key).map (·.2) = e.2.toJson.strings) :
    (flattenEntries separator full es).map (·.2) = Json.strings (.object (entriesToJson es)) := by
  rw [flattenEntries_eq_flatMap, entriesToJson_eq_map, Json.strings, Json.stringsMembers_eq_flatMap,
    List.map_flatMap, List.flatMap_map]
  exact List.flatMap_congr fun e he => h e he _

/-- The flat list of a value has the strings of its JSON, whatever the separator and the full key in front. -/
theorem map_flatten (separator key : String) (v : Value) :
    (v.flatten separator key).map (·.2) = v.toJson.strings := by
  induction v generalizing key with
  | text t => rfl
  | list items =>
    have htexts : (items.mapIdx fun i t => (indexedKey key i, t)).map (·.2) = items.map id :=
      map_mapIdx (by intro i t; rfl) items
    rw [flatten, toJson, Json.strings_ofTexts, htexts, List.map_id]
  | choices cs =>
    rw [flatten, toJson, Json.strings, Json.stringsItems_eq_flatMap, List.flatMap_map, List.map_flatten,
      map_mapIdx fun _ c => c.map_flatten _]
    exact (List.flatMap_def ..).symm
  | bundle es ih => exact map_flattenEntries _ ih

end Value

namespace Bundle

theorem map_flatten (b : Bundle) (separator : String) : (b.flatten separator).map (·.2) = b.toJson.strings :=
  Value.map_flattenEntries id fun e _ key => e.2.map_flatten separator key

/-- The texts of the flat list are the strings of the bundle's JSON in document order, none lost, repeated or
moved, and so they are the same with every separator, position by position. -/
theorem flatten_texts (b : Bundle) (separator : String) :
    (b.flatten separator).map (·.2) = b.toJson.strings ∧
    Json.Token.texts (Json.tokens b.toJson) = b.toJson.strings ∧
    ∀ other, (b.flatten other).length = (b.flatten separator).length ∧
      ∀ i : Nat, (b.flatten other)[i]?.map (·.2) = (b.flatten separator)[i]?.map (·.2) := by
  refine ⟨b.map_flatten separator, Json.texts_tokens _, fun other => ?_⟩
  have h : (b.flatten other).map (·.2) = (b.flatten separator).map (·.2) := by
    rw [b.map_flatten, b.map_flatten]
  refine ⟨?_, fun i => ?_⟩
  · simpa using congrArg List.length h
  · rw [← List.getElem?_map, ← List.getElem?_map, h]

end Bundle

end TripLocale
