/-
Distinct keys as an invariant of every bundle there is (`built_keysUnique`). `ofEntries?` takes entries exactly
when no position repeats the key of an earlier one, and otherwise names the key of the first position that does
(`ofEntries?_eq_error_iff`).

A bundle is made from entries, whose sections are bundles made before it, is read from a text, or is a section of
another. Each of these ways gives distinct keys in the bundle and in every section below.
-/
import Mathlib.Data.List.Nodup
import TripLocale.Proofs.Bundle.Fault
import TripLocale.Proofs.Bundle.Reach

namespace TripLocale

/-! ## Repeated keys -/

/-- The key at position `i` stands at an earlier position too. -/
def RepeatsAt (keys : List String) (i : Nat) : Prop := ∃ j, j < i ∧ i < keys.length ∧ keys[j]? = keys[i]?

instance (keys : List String) (i : Nat) : Decidable (RepeatsAt keys i) :=
  inferInstanceAs (Decidable (∃ j, j < i ∧ i < keys.length ∧ keys[j]? = keys[i]?))

/-- Keys are distinct when no position repeats one. -/
theorem nodup_iff_forall_not_repeatsAt {keys : List String} : keys.Nodup ↔ ∀ i, ¬ RepeatsAt keys i := by
  rw [List.nodup_iff_getElem?_ne_getElem?]
  constructor
  · rintro h i ⟨j, hj, hi, he⟩
    exact h j i hj hi he
  · intro h j i hj hi he
    exact h i ⟨j, hj, hi, he⟩

/-- In front of the first repeat the keys are distinct, and its key is among them. -/
theorem repeatsAt_length {front back : List String} {k : String} (hk : k ∈ front) (hf : front.Nodup) :
    RepeatsAt (front ++ k :: back) front.length ∧ ∀ m < front.length, ¬ RepeatsAt (front ++ k :: back) m := by
  constructor
  · obtain ⟨j, hj, he⟩ := List.getElem_of_mem hk
    refine ⟨j, hj, by simp, ?_⟩
    simp [List.getElem?_append_left hj, hj, he]
  · rintro m hm ⟨j, hj, -, he⟩
    rw [List.getElem?_append_left (Nat.lt_trans hj hm), List.getElem?_append_left hm] at he
    exact nodup_iff_forall_not_repeatsAt.1 hf m ⟨j, hj, hm, he⟩

namespace Bundle

/-- Entries that make no bundle are told apart by their first repeat: the key of the first position whose key
stands before it. -/
theorem ofEntries?_eq_error_iff {es : List (String × Value)} {k : String} :
    ofEntries? es = .error k ↔ ∃ i, (es.map (·.1))[i]? = some k ∧ RepeatsAt (es.map (·.1)) i ∧
      ∀ m < i, ¬ RepeatsAt (es.map (·.1)) m := by
  constructor
  · intro h
    obtain ⟨front, back, hks, hk, hf⟩ := ofEntries?_eq_error h
    rw [hks]
    exact ⟨front.length, by simp, repeatsAt_length hk hf⟩
  · rintro ⟨i, hi, hr, hfirst⟩
    cases hb : ofEntries? es with
    | ok b => exact absurd hr (nodup_iff_forall_not_repeatsAt.1 (ofEntries?_eq_ok_iff.1 hb).1 i)
    | error k' =>
      obtain ⟨front, back, hks, hk', hf⟩ := ofEntries?_eq_error hb
      rw [hks] at hi hr hfirst
      obtain ⟨hr', hfirst'⟩ :
          RepeatsAt (front ++ k' :: back) front.length ∧
            ∀ m < front.length, ¬ RepeatsAt (front ++ k' :: back) m :=
        repeatsAt_length hk' hf
      -- both positions are the first that repeats a key
      obtain rfl : i = front.length :=
        Nat.le_antisymm (Nat.not_lt.1 fun h => hfirst _ h hr') (Nat.not_lt.1 fun h => hfirst' _ h hr)
      simpa using hi

/-- The entries of a bundle made from entries are these, and each is found by its key. -/
theorem child?_eq_some_iff_of_ofEntries? {es : List (String × Value)} {b : Bundle} (h : ofEntries? es = .ok b)
    {k : String} {v : Value} : b.child? k = some v ↔ (k, v) ∈ es := by
  obtain ⟨hu, rfl⟩ := ofEntries?_eq_ok_iff.1 h
  exact ⟨mem_of_child?_eq_some, child?_of_mem hu⟩

/-! ## Where bundles come from -/

/-- `Built b`: `b` was made from entries whose sections were built before, was read from a text, or is a section of
a bundle that was built. -/
inductive Built : Bundle → Prop
  | ofEntries {es : List (String × Value)} {b : Bundle} :
      (∀ e ∈ es, ∀ c, e.2.bundle? = some c → Built c) → ofEntries? es = .ok b → Built b
  | parse {text : String} {b : Bundle} : Bundle.parse text = .ok b → Built b
  | child {b c : Bundle} {k : String} : Built b → (k, .bundle c.entries) ∈ b.entries → Built c

theorem Built.keysUnique {b : Bundle} (h : b.Built) : b.KeysUnique := by
  induction h with
  | @ofEntries es b _ hb ih =>
    obtain ⟨hu, rfl⟩ := ofEntries?_eq_ok_iff.1 hb
    refine Value.keysUnique_bundle_iff.2 ⟨hu, fun e he => ?_⟩
    obtain ⟨k, v⟩ := e
    cases v with
    | bundle inner => exact ih _ he ⟨inner⟩ rfl
    | _ => trivial
  | parse h => exact (parse_eq_ok_iff.1 h).2.keysUnique
  | child _ hc ih => exact (Value.keysUnique_bundle_iff.1 ih).2 _ hc

/-- Entries make a bundle exactly when their keys are distinct; it has these entries, in order, and finds each by
its key. Otherwise the key of the first position that repeats one is named. So no key occurs twice in a section of
any bundle, however the bundle was built. -/
theorem built_keysUnique :
    (∀ es : List (String × Value),
      ((∃ b, ofEntries? es = .ok b) ↔ (es.map (·.1)).Nodup) ∧
      (∀ b, ofEntries? es = .ok b → b.entries = es ∧ ∀ k v, b.child? k = some v ↔ (k, v) ∈ es) ∧
      ∀ k, ofEntries? es = .error k ↔ ∃ i, (es.map (·.1))[i]? = some k ∧ RepeatsAt (es.map (·.1)) i ∧
        ∀ m < i, ¬ RepeatsAt (es.map (·.1)) m) ∧
    ∀ b : Bundle, b.Built → b.KeysUnique := by
  refine ⟨fun es => ⟨?_, fun b hb => ⟨?_, fun k v => ?_⟩, fun k => ofEntries?_eq_error_iff⟩,
    fun b => Built.keysUnique⟩
  · simp only [ofEntries?_eq_ok_iff, exists_and_left, exists_eq, and_true]
  · rw [(ofEntries?_eq_ok_iff.1 hb).2]
  · exact child?_eq_some_iff_of_ofEntries? hb

theorem ofEntries?_planner : ofEntries? planner.entries = .ok planner :=
  ofEntries?_eq_ok_iff.2 ⟨by decide, rfl⟩

theorem built_planner : planner.Built := by
  have htime : Built ⟨[("months", .list ["Sty", "Lut"])]⟩ :=
    .ofEntries (by simp [Value.bundle?]) (ofEntries?_eq_ok_iff.2 ⟨by decide, rfl⟩)
  refine .ofEntries (fun e he c hc => ?_) ofEntries?_planner
  simp only [planner, List.mem_cons, List.not_mem_nil, or_false] at he
  rcases he with rfl | rfl | rfl
  · cases hc
    exact htime
  · cases hc
  · cases hc

/-- The small bundle, and its entries with two more whose keys it has already. -/
theorem built_keysUnique_planner :
    ofEntries? planner.entries = .ok planner ∧ planner.child? "ok" = some (.text "OK") ∧
      ofEntries? (planner.entries ++ [("mode", .text "Rower"), ("time", .text "min")]) = .error "mode" ∧
      planner.Built ∧ planner.KeysUnique := by
  refine ⟨ofEntries?_planner, ?_, ?_, built_planner, built_keysUnique.2 planner built_planner⟩
  · exact (((built_keysUnique.1 _).2.1 planner ofEntries?_planner).2 _ _).2 (by simp [planner])
  · exact ((built_keysUnique.1 _).2.2 "mode").2 ⟨3, rfl, by decide, by decide⟩

end Bundle

end TripLocale
