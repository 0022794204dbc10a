/-
Reports in order: a list of outcomes `enumerates` a relation when it lists, in a given order of keys, the outcome
of every key that has one and nothing else. A report is put together from the reports on its parts, as long as
the keys of one part come before those of the next (`Enumerates.append`, `enumerates_flatMap`).
-/
import Mathlib.Data.List.Pairwise

namespace TripLocale

variable {α κ ι ε : Type} {R S : κ → ε → Prop} {before : κ → κ → Prop} {errors : List ε}

/-- `errors` lists the outcomes that `R` gives keys, one for each place in the order `before` of keys. -/
def Enumerates (R : κ → ε → Prop) (before : κ → κ → Prop) (errors : List ε) : Prop :=
  ∃ found : List (κ × ε), errors = found.map (·.2) ∧ (∀ k e, (k, e) ∈ found ↔ R k e) ∧
    (found.map (·.1)).Pairwise before

namespace Enumerates

theorem congr (h : Enumerates R before errors) (hRS : ∀ k e, S k e ↔ R k e) :
    Enumerates S before errors := by
  obtain ⟨found, he, hm, ho⟩ := h
  exact ⟨found, he, fun k e => (hm k e).trans (hRS k e).symm, ho⟩

theorem append {more : List ε} (hR : Enumerates R before errors) (hS : Enumerates S before more)
    (h : ∀ k e l f, R k e → S l f → before k l) :
    Enumerates (fun k e => R k e ∨ S k e) before (errors ++ more) := by
  obtain ⟨found, rfl, hm, ho⟩ := hR
  obtain ⟨others, rfl, hm', ho'⟩ := hS
  refine ⟨found ++ others, List.map_append.symm, fun k e => ?_, ?_⟩
  · rw [List.mem_append, hm, hm']
  · rw [List.map_append, List.pairwise_append, List.forall_mem_map]
    refine ⟨ho, ho', fun p hp => ?_⟩
    rw [List.forall_mem_map]
    exact fun q hq => h _ _ _ _ ((hm _ _).1 hp) ((hm' _ _).1 hq)

/-- A report under other keys. -/
theorem image {before' : ι → ι → Prop} (h : Enumerates R before errors) (g : κ → ι)
    (hg : ∀ k l, before k l → before' (g k) (g l)) :
    Enumerates (fun i e => ∃ k, i = g k ∧ R k e) before' errors := by
  obtain ⟨found, rfl, hm, ho⟩ := h
  refine ⟨found.map fun p => (g p.1, p.2), by simp [Function.comp_def], fun i e => ?_, ?_⟩
  · rw [List.mem_map]
    constructor
    · rintro ⟨p, hp, hi⟩
      cases hi
      exact ⟨p.1, rfl, (hm _ _).1 hp⟩
    · rintro ⟨k, rfl, hk⟩
      exact ⟨(k, e), (hm _ _).2 hk, rfl⟩
  · rw [List.map_map]
    rw [List.pairwise_map] at ho ⊢
    exact ho.imp (hg _ _)

end Enumerates

theorem enumerates_map {xs : List α} {key : α → κ} (h : xs.Pairwise fun x y => before (key x) (key y))
    (f : α → ε) : Enumerates (fun k e => ∃ x ∈ xs, k = key x ∧ e = f x) before (xs.map f) := by
  refine ⟨xs.map fun x => (key x, f x), by simp [Function.comp_def], fun k e => ?_, ?_⟩
  · simp [eq_comm]
  · rw [List.map_map, List.pairwise_map]
    exact h

theorem enumerates_nil (h : ∀ k e, ¬ R k e) : Enumerates R before [] :=
  ⟨[], rfl, fun k e => by simp [h], .nil⟩

theorem enumerates_singleton {k : κ} {e : ε} (h : ∀ l f, R l f ↔ l = k ∧ f = e) : Enumerates R before [e] :=
  ⟨[(k, e)], rfl, fun l f => by simp [h], List.pairwise_singleton ..⟩

theorem enumerates_flatMap {xs : List α} {P : α → κ → ε → Prop} {f : α → List ε}
    (h : ∀ x ∈ xs, Enumerates (P x) before (f x))
    (ho : xs.Pairwise fun x y => ∀ k e l d, P x k e → P y l d → before k l) :
    Enumerates (fun k e => ∃ x ∈ xs, P x k e) before (xs.flatMap f) := by
  induction xs with
  | nil => exact enumerates_nil (by simp)
  | cons x xs ih =>
    obtain ⟨hx, hxs⟩ := List.forall_mem_cons.1 h
    obtain ⟨hox, hoxs⟩ := List.pairwise_cons.1 ho
    have hrest := ih hxs hoxs
    refine (hx.append hrest fun k e l d hk => ?_).congr fun k e => by simp
    rintro ⟨y, hy, hl⟩
    exact hox y hy k e l d hk hl

end TripLocale
