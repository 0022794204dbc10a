/-
JSON trees: induction over a tree with its items and members, how deep a tree is, and members without repeats:
each is one of the members given (`mem_of_mem_withoutRepeats`), and with distinct names they make an object as
they are (`withoutRepeats_of_nodup`, `settled_object`).

A container that stands within others stays within a limit exactly when it opens below the limit and all
that it holds stays within it (`add_depth_array_le_iff`, `add_depth_object_le_iff`).
-/
import TripLocale.Json.Tree

namespace TripLocale.Json.Tree

variable {σ ν : Type}

/-! ## Induction -/

theorem sizeOf_member_lt {m : σ × Tree σ ν} {members : List (σ × Tree σ ν)} (h : m ∈ members) :
    sizeOf m.2 < sizeOf (object members) := by
  have hm : sizeOf m < sizeOf members := List.sizeOf_lt_of_mem h
  obtain ⟨k, j⟩ := m
  simp only [Prod.mk.sizeOf_spec] at hm
  simp only [object.sizeOf_spec]
  omega

theorem sizeOf_item_lt {j : Tree σ ν} {items : List (Tree σ ν)} (h : j ∈ items) :
    sizeOf j < sizeOf (array items) := by
  have := List.sizeOf_lt_of_mem h
  simp only [array.sizeOf_spec]
  omega

/-- Induction over a tree: the claim may be used for each item of an array and each value of an object. -/
@[elab_as_elim, induction_eliminator]
theorem induct {motive : Tree σ ν → Prop} (null : motive .null) (bool : ∀ b, motive (.bool b))
    (number : ∀ n, motive (.number n)) (string : ∀ s, motive (.string s))
    (array : ∀ items, (∀ j ∈ items, motive j) → motive (.array items))
    (object : ∀ members, (∀ m ∈ members, motive m.2) → motive (.object members)) (j : Tree σ ν) :
    motive j :=
  match j with
  | .null => null
  | .bool b => bool b
  | .number n => number n
  | .string s => string s
  | .array items => array items fun j _ => induct null bool number string array object j
  | .object members => object members fun m _ => induct null bool number string array object m.2
termination_by sizeOf j
decreasing_by
  · exact sizeOf_item_lt ‹_›
  · exact sizeOf_member_lt ‹_›

/-! ## Depth -/

theorem depthItems_le_iff {items : List (Tree σ ν)} {n : Nat} :
    depthItems items ≤ n ↔ ∀ j ∈ items, j.depth ≤ n := by
  induction items with
  | nil => simp [depthItems]
  | cons j js ih => rw [depthItems, Nat.max_le, ih, List.forall_mem_cons]

theorem depthMembers_eq_depthItems (members : List (σ × Tree σ ν)) :
    depthMembers members = depthItems (members.map (·.2)) := by
  induction members with
  | nil => rfl
  | cons m ms ih =>
    obtain ⟨k, j⟩ := m
    rw [depthMembers, ih, List.map_cons, depthItems]

/-- An array behind `k` containers stays within `n` when it opens within `n` and its items stay there. -/
theorem add_depth_array_le_iff {items : List (Tree σ ν)} {k n : Nat} :
    k + (array items).depth ≤ n ↔ k < n ∧ ∀ j ∈ items, k + 1 + j.depth ≤ n := by
  have h : depthItems items ≤ n - (k + 1) ↔ ∀ j ∈ items, j.depth ≤ n - (k + 1) := depthItems_le_iff
  rw [depth]
  constructor
  · intro hn
    have := h.1 (by omega)
    exact ⟨by omega, fun j hj => by have := this j hj; omega⟩
  · rintro ⟨hk, hitems⟩
    have := h.2 fun j hj => by have := hitems j hj; omega
    omega

theorem add_depth_object_le_iff {members : List (σ × Tree σ ν)} {k n : Nat} :
    k + (object members).depth ≤ n ↔ k < n ∧ ∀ m ∈ members, k + 1 + m.2.depth ≤ n := by
  have h : (object members).depth = (array (members.map (·.2))).depth := by
    rw [depth, depth, depthMembers_eq_depthItems]
  rw [h, add_depth_array_le_iff, List.forall_mem_map]

end TripLocale.Json.Tree

/-! ## Members without repeats -/

namespace TripLocale.Json

variable {α : Type}

theorem mem_of_mem_putMember {name : String} {value : α} {ms : List (String × α)} {m : String × α}
    (h : m ∈ putMember name value ms) : m = (name, value) ∨ m ∈ ms := by
  induction ms with
  | nil => exact .inl (List.mem_singleton.1 h)
  | cons e ms ih =>
    obtain ⟨k, v⟩ := e
    by_cases hk : k = name
    · rw [putMember, if_pos hk, hk] at h
      exact (List.mem_cons.1 h).imp_right (List.mem_cons_of_mem _)
    · rw [putMember, if_neg hk] at h
      rcases List.mem_cons.1 h with rfl | h
      · exact .inr (.head _)
      · exact (ih h).imp_right (List.mem_cons_of_mem _)

theorem mem_of_mem_foldl_putMember {front back : List (String × α)} {m : String × α}
    (h : m ∈ back.foldl (fun ms m => putMember m.1 m.2 ms) front) : m ∈ front ∨ m ∈ back := by
  induction back generalizing front with
  | nil => exact .inl h
  | cons e back ih =>
    rcases ih h with h | h
    · rcases mem_of_mem_putMember h with rfl | h
      · exact .inr (.head _)
      · exact .inl h
    · exact .inr (.tail _ h)

/-- Each member that is kept is one of the members. -/
theorem mem_of_mem_withoutRepeats {members : List (String × α)} {m : String × α}
    (h : m ∈ withoutRepeats members) : m ∈ members :=
  (mem_of_mem_foldl_putMember h).resolve_left List.not_mem_nil

theorem foldl_putMember_of_nodup (front : List (String × α)) {back : List (String × α)}
    (h : ((front ++ back).map (·.1)).Nodup) :
    back.foldl (fun ms m => putMember m.1 m.2 ms) front = front ++ back := by
  induction back generalizing front with
  | nil => simp
  | cons m back ih =>
    have hassoc : front ++ m :: back = front ++ [m] ++ back := by simp
    have hm : m.1 ∉ front.map (·.1) := fun hm => by
      rw [List.map_append] at h
      exact (List.nodup_append.1 h).2.2 _ hm _ (by simp) rfl
    rw [List.foldl_cons, putMember_of_not_mem hm, hassoc]
    exact ih _ (hassoc ▸ h)

/-- Members with distinct names are all kept, in order. -/
theorem withoutRepeats_of_nodup {members : List (String × α)} (h : (members.map (·.1)).Nodup) :
    withoutRepeats members = members := foldl_putMember_of_nodup [] h

/-! ## Settled values -/

theorem settledItems_eq_map (items : List Json) : settledItems items = items.map settled := by
  induction items with
  | nil => rfl
  | cons j js ih => rw [settledItems, ih, List.map_cons]

theorem settledMembers_eq_map (members : List (String × Json)) :
    settledMembers members = members.map fun m => (m.1, settled m.2) := by
  induction members with
  | nil => rfl
  | cons m ms ih => rw [settledMembers, ih, List.map_cons]

/-- An array of settled items is settled. -/
theorem settled_array {items : List Json} (h : ∀ j ∈ items, settled j = j) :
    settled (.array items) = .array items := by
  rw [settled, settledItems_eq_map, List.map_congr_left h, List.map_id']

/-- An object of settled values under distinct names is settled. -/
theorem settled_object {members : List (String × Json)} (hn : (members.map (·.1)).Nodup)
    (h : ∀ m ∈ members, settled m.2 = m.2) : settled (.object members) = .object members := by
  have hvalues : members.map (fun m => (m.1, settled m.2)) = members.map fun m => m :=
    List.map_congr_left fun m hm => Prod.ext rfl (h m hm)
  rw [settled, settledMembers_eq_map, hvalues, List.map_id', withoutRepeats_of_nodup hn]

theorem settled_ofTexts (ts : List String) : settled (ofTexts ts) = ofTexts ts := by
  refine settled_array fun j hj => ?_
  obtain ⟨t, -, rfl⟩ := List.mem_map.1 hj
  rfl

end TripLocale.Json
