/-
A failed lookup names a real place. The parent in its error is a beginning of the path asked for, and
looking it up leads to what the error says stands there: a list or choices of the stated size, of which
the segment is no position, or a text. A missing key is missing from a section that a beginning of the path
leads to.

The parent is rendered while the lookup walks; that it parses back to the segments walked is
`KeyPath.Writable.of_append`, for every separator.
-/
import Mathlib.Control.Monad.Basic
import TripLocale.Proofs.Bundle.Reach
import TripLocale.Proofs.KeyPath.Render

namespace TripLocale.Bundle

/-- A beginning of a path leads where the lookup of its text does. -/
theorem lookup_render {b : Bundle} {path separator : String} {front back : List Segment} {t : Target}
    (hp : KeyPath.parse path separator = .ok ⟨front ++ back⟩) (hne : front ≠ [])
    (ht : b.root.reach front = .ok t) : b.lookup (KeyPath.render ⟨front⟩ separator) separator = .ok t := by
  have hw := (KeyPath.parse_eq_ok_iff.1 hp).1.of_append hne
  exact lookup_eq_ok_iff.2 ⟨⟨front⟩, KeyPath.parse_eq_ok_iff.2 ⟨hw, rfl⟩, ht⟩

/-- A proper beginning of a path has a text that goes on. -/
theorem render_starts {path separator : String} {front back : List Segment}
    (hp : KeyPath.parse path separator = .ok ⟨front ++ back⟩) (hf : front ≠ []) (hb : back ≠ []) :
    ∃ rest, rest ≠ "" ∧ path = KeyPath.render ⟨front⟩ separator ++ rest := by
  obtain ⟨hw, rfl⟩ := KeyPath.parse_eq_ok_iff.1 hp
  exact hw.render_append hf hb

/-- The root is a section: behind no segment a lookup is neither at a text nor at numbered places. -/
theorem ne_nil_of_reach {b : Bundle} {front : List Segment} {t : Target}
    (ht : b.root.reach front = .ok t) (h : ∀ es, t ≠ .value (.bundle es)) : front ≠ [] := by
  rintro rfl
  exact h b.entries (Except.ok.inj ht).symm

/-- What a lookup of a path that parses fails at, and how it says so. -/
theorem lookup_error_cases {b : Bundle} {path separator : String} {e : LookupError}
    (h : b.lookup path separator = .error e) :
    (∃ f, e = .badPath f) ∨
    ∃ front s back t, KeyPath.parse path separator = .ok ⟨front ++ s :: back⟩ ∧
      b.root.reach front = .ok t ∧
      ((∃ es, t = .value (.bundle es) ∧ child? ⟨es⟩ s.text = none ∧ e = .missingKey path s.text) ∨
        (∃ n, t.size? = some n ∧ s.index?.bind t.item? = none ∧
          e = .indexOutOfRange path (KeyPath.render ⟨front⟩ separator) s.text n) ∨
        (∃ x, t.text? = some x ∧
          e = .notAContainer path (KeyPath.render ⟨front⟩ separator) .text)) := by
  rcases lookup_eq_error_iff.1 h with ⟨f, -, he⟩ | ⟨front, s, back, t, stuck, hp, ht, hs, rfl⟩
  · exact .inl ⟨f, he⟩
  refine .inr ⟨front, s, back, t, hp, ht, ?_⟩
  rcases Target.step_eq_error_iff.1 hs with ⟨es, hes, hv, rfl⟩ | ⟨n, hn, hi, rfl⟩ | ⟨x, hx, rfl⟩
  · exact .inl ⟨es, hes, hv, rfl⟩
  · exact .inr (.inl ⟨n, hn, hi, rfl⟩)
  · exact .inr (.inr ⟨x, hx, rfl⟩)

theorem size?_cases {t : Target} {n : Nat} (h : t.size? = some n) :
    (∃ items, t = .value (.list items) ∧ items.length = n) ∨
    (∃ cs, t = .value (.choices cs) ∧ cs.length = n) ∨ (∃ c, t = .choice c ∧ n = 2) := by
  match t, h with
  | .value (.list items), rfl => exact .inl ⟨items, rfl, rfl⟩
  | .value (.choices cs), rfl => exact .inr (.inl ⟨cs, rfl, rfl⟩)
  | .choice c, rfl => exact .inr (.inr ⟨c, rfl, rfl⟩)

/-- What the errors of a failed lookup say of the bundle. -/
theorem lookup_error_place {b : Bundle} (hl : b.ListsFit) (path separator : String) :
    (∀ asked parent segment n,
      b.lookup path separator = .error (.indexOutOfRange asked parent segment n) →
        asked = path ∧ (∃ rest, rest ≠ "" ∧ path = parent ++ rest) ∧
        (∃ t, b.lookup parent separator = .ok t ∧
          ((∃ items, t = .value (.list items) ∧ items.length = n) ∨
            (∃ cs, t = .value (.choices cs) ∧ cs.length = n) ∨ (∃ c, t = .choice c ∧ n = 2))) ∧
        ∀ i < n, segment ≠ toString i) ∧
    (∀ asked parent kind, b.lookup path separator = .error (.notAContainer asked parent kind) →
      asked = path ∧ (∃ rest, rest ≠ "" ∧ path = parent ++ rest) ∧
      (∃ t x, b.lookup parent separator = .ok t ∧ t.text? = some x) ∧ kind = .text) ∧
    ∀ asked segment, b.lookup path separator = .error (.missingKey asked segment) →
      asked = path ∧ ∃ front s back es, KeyPath.parse path separator = .ok ⟨front ++ s :: back⟩ ∧
        (front = [] ∧ es = b.entries ∨
          b.lookup (KeyPath.render ⟨front⟩ separator) separator = .ok (.value (.bundle es))) ∧
        segment = s.text ∧ segment ∉ es.map (·.1) := by
  refine ⟨fun asked parent segment n h => ?_, fun asked parent kind h => ?_, fun asked segment h => ?_⟩
  · obtain ⟨f, he⟩ | ⟨front, s, back, t, hp, ht, hc⟩ := lookup_error_cases h
    · cases he
    obtain ⟨es, -, -, he⟩ | ⟨m, hm, hi, he⟩ | ⟨x, -, he⟩ := hc <;> cases he
    have hne : front ≠ [] := ne_nil_of_reach ht fun es e => by subst e; cases hm
    refine ⟨rfl, render_starts hp hne nofun, ⟨t, lookup_render hp hne ht, size?_cases hm⟩, ?_⟩
    intro i hi'
    have hfit := Target.Everywhere.reach (r := b.root) hl ht
    exact Target.text_ne_of_bind_eq_none hfit hm hi hi'
  · obtain ⟨f, he⟩ | ⟨front, s, back, t, hp, ht, hc⟩ := lookup_error_cases h
    · cases he
    obtain ⟨es, -, -, he⟩ | ⟨m, -, -, he⟩ | ⟨x, hx, he⟩ := hc <;> cases he
    have hne : front ≠ [] := ne_nil_of_reach ht fun es e => by subst e; cases hx
    exact ⟨rfl, render_starts hp hne nofun, ⟨t, x, lookup_render hp hne ht, hx⟩, rfl⟩
  · obtain ⟨f, he⟩ | ⟨front, s, back, t, hp, ht, hc⟩ := lookup_error_cases h
    · cases he
    obtain ⟨es, rfl, hv, he⟩ | ⟨m, -, -, he⟩ | ⟨x, -, he⟩ := hc <;> cases he
    refine ⟨rfl, front, s, back, es, hp, ?_, rfl, child?_eq_none_iff.1 hv⟩
    by_cases hne : front = []
    · subst hne
      cases ht
      exact .inl ⟨rfl, rfl⟩
    · exact .inr (lookup_render hp hne ht)

/-- The fourth of two months: the parent is the list of months. -/
theorem lookup_error_month :
    planner.ListsFit ∧
      planner.lookup "time.months[3]" "." =
        .error (.indexOutOfRange "time.months[3]" "time.months" "3" 2) ∧
      (∃ rest, rest ≠ "" ∧ "time.months[3]" = "time.months" ++ rest) ∧ ∀ i < 2, "3" ≠ toString i := by
  have h : planner.lookup "time.months[3]" "." =
      .error (.indexOutOfRange "time.months[3]" "time.months" "3" 2) := by decide +kernel
  obtain ⟨-, hrest, -, hi⟩ :=
    (lookup_error_place planner_listsFit "time.months[3]" ".").1 _ _ _ _ h
  exact ⟨planner_listsFit, h, hrest, hi⟩

end TripLocale.Bundle
