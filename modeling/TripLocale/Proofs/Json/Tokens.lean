/-
The tokens of a tree: no two literals or numbers stand side by side (`isChain_tokens`), and there are at least
as many tokens as containers around the innermost value (`depth_le_length_tokens`).
-/
import TripLocale.Proofs.Json.Scan
import TripLocale.Proofs.Json.Tree

namespace TripLocale.Json

variable {σ ν : Type}

/-! ## Neighbours -/

namespace Token

theorem isChain_cons {t : Token σ ν} {ts : List (Token σ ν)} (ht : t.selfEnding = true) (h : ts.IsChain Apart) :
    (t :: ts).IsChain Apart := h.cons fun _ _ => .inl ht

theorem isChain_append {ts us : List (Token σ ν)} (h : ts.IsChain Apart) (hu : us.IsChain Apart)
    (hhead : ∀ u ∈ us.head?, u.selfEnding = true) : (ts ++ us).IsChain Apart :=
  h.append hu fun _ _ u hm => .inr (hhead u hm)

end Token

theorem selfEnding_head?_tokensItems (js : List (Tree σ ν)) :
    ∀ t ∈ (tokensItems js).head?, t.selfEnding = true := by
  cases js <;> simp [tokensItems, Token.selfEnding]

theorem selfEnding_head?_tokensMembers (ms : List (σ × Tree σ ν)) :
    ∀ t ∈ (tokensMembers ms).head?, t.selfEnding = true := by
  cases ms <;> simp [tokensMembers, Token.selfEnding]

theorem isChain_tokensItems {js : List (Tree σ ν)} (h : ∀ j ∈ js, (tokens j).IsChain Token.Apart) :
    (tokensItems js).IsChain Token.Apart := by
  induction js with
  | nil => exact .singleton _
  | cons j js ih =>
    obtain ⟨hj, hjs⟩ := List.forall_mem_cons.1 h
    exact Token.isChain_cons rfl (Token.isChain_append hj (ih hjs) (selfEnding_head?_tokensItems js))

theorem isChain_member {k : σ} {ts : List (Token σ ν)} (h : ts.IsChain Token.Apart) :
    (.string k :: .colon :: ts).IsChain Token.Apart :=
  Token.isChain_cons rfl (Token.isChain_cons rfl h)

theorem isChain_tokensMembers {ms : List (σ × Tree σ ν)} (h : ∀ m ∈ ms, (tokens m.2).IsChain Token.Apart) :
    (tokensMembers ms).IsChain Token.Apart := by
  induction ms with
  | nil => exact .singleton _
  | cons m ms ih =>
    obtain ⟨hm, hms⟩ := List.forall_mem_cons.1 h
    exact Token.isChain_cons rfl (isChain_member
      (Token.isChain_append hm (ih hms) (selfEnding_head?_tokensMembers ms)))

/-- No two literals or numbers of a tree stand side by side. -/
theorem isChain_tokens (j : Tree σ ν) : (tokens j).IsChain Token.Apart := by
  induction j using Tree.induct with
  | null => exact .singleton _
  | bool b => exact .singleton _
  | number n => exact .singleton _
  | string s => exact .singleton _
  -- behind its first token a container has what stands behind the comma of a later item or member
  | array items ih =>
    cases items with
    | nil => exact Token.isChain_cons rfl (.singleton _)
    | cons j js => exact Token.isChain_cons rfl (isChain_tokensItems ih).tail
  | object members ih =>
    cases members with
    | nil => exact Token.isChain_cons rfl (.singleton _)
    | cons m ms => exact Token.isChain_cons rfl (isChain_tokensMembers ih).tail

/-! ## How many tokens -/

theorem length_lt_tokensItems {js : List (Tree σ ν)} : ∀ j ∈ js, (tokens j).length < (tokensItems js).length := by
  induction js with
  | nil => nofun
  | cons j js ih =>
    rw [tokensItems, List.cons_append, List.length_cons, List.length_append]
    exact List.forall_mem_cons.2 ⟨by omega, fun j hj => by have := ih j hj; omega⟩

theorem length_lt_tokensMembers {ms : List (σ × Tree σ ν)} :
    ∀ m ∈ ms, (tokens m.2).length < (tokensMembers ms).length := by
  induction ms with
  | nil => nofun
  | cons m ms ih =>
    rw [tokensMembers]
    simp only [List.cons_append, List.length_cons, List.length_append]
    exact List.forall_mem_cons.2 ⟨by omega, fun m hm => by have := ih m hm; omega⟩

theorem length_tokensItems_le (items : List (Tree σ ν)) :
    (tokensItems items).length ≤ (tokens (.array items)).length := by
  cases items <;> simp [tokensItems, tokens]

theorem length_tokensMembers_le (members : List (σ × Tree σ ν)) :
    (tokensMembers members).length ≤ (tokens (.object members)).length := by
  cases members <;> simp [tokensMembers, tokens]

theorem length_tokens_pos (j : Tree σ ν) : 0 < (tokens j).length := by
  cases j with
  | array items => cases items <;> exact Nat.succ_pos _
  | object members => cases members <;> exact Nat.succ_pos _
  | _ => exact Nat.succ_pos _

/-- Every container has a token of its own. -/
theorem depth_le_length_tokens (j : Tree σ ν) : j.depth ≤ (tokens j).length := by
  induction j using Tree.induct with
  | array items ih =>
    rw [← Nat.zero_add (Tree.depth _), Tree.add_depth_array_le_iff]
    refine ⟨length_tokens_pos _, fun j hj => ?_⟩
    have := ih j hj
    have := length_lt_tokensItems j hj
    have := length_tokensItems_le items
    omega
  | object members ih =>
    rw [← Nat.zero_add (Tree.depth _), Tree.add_depth_object_le_iff]
    refine ⟨length_tokens_pos _, fun m hm => ?_⟩
    have := ih m hm
    have := length_lt_tokensMembers m hm
    have := length_tokensMembers_le members
    omega
  | _ => exact Nat.zero_le _

end TripLocale.Json
