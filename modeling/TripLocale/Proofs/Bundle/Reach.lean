/-
A lookup as a run of steps: it succeeds exactly when `Target.reach` takes all steps of its path
(`lookup_eq_ok_iff`), and it fails exactly when the path has no grammar or some step behind a beginning of
the path cannot be taken (`lookup_eq_error_iff`).

One step is told apart by what it leaves from: a section is entered by key; what has a size, a list, a
list of choices or a single choice, by position (`step_of_size?`); a text not at all.
-/
import TripLocale.Bundle.Lookup
import TripLocale.Proofs.Bundle.Value
import TripLocale.Proofs.KeyPath.Position

namespace TripLocale

/-! ## Children -/

namespace Bundle

theorem child?_eq_none_iff {es : List (String × Value)} {key : String} :
    child? ⟨es⟩ key = none ↔ key ∉ es.map (·.1) := by
  simp only [child?, Option.map_eq_none_iff, List.find?_eq_none, List.mem_map, not_exists, not_and,
    beq_iff_eq]

theorem mem_of_child?_eq_some {es : List (String × Value)} {key : String} {v : Value}
    (h : child? ⟨es⟩ key = some v) : (key, v) ∈ es := mem_of_find?_key h

/-- With distinct keys the value of every entry is found. -/
theorem child?_of_mem {es : List (String × Value)} (hu : (es.map (·.1)).Nodup) {key : String} {v : Value}
    (h : (key, v) ∈ es) : child? ⟨es⟩ key = some v := find?_key_of_mem hu h

end Bundle

namespace Target

/-! ## One step -/

/-- The number of places, where they are numbered. -/
def size? : Target → Option Nat
  | value (.list items) => some items.length
  | value (.choices cs) => some cs.length
  | choice _ => some 2
  | _ => none

/-- What stands at a numbered place. -/
def item? : Target → Nat → Option Target
  | value (.list items), i => items[i]?.map text
  | value (.choices cs), i => cs[i]?.map choice
  | choice c, i => (c.field? i).map text
  | _, _ => none

theorem step_bundle (es : List (String × Value)) (s : Segment) :
    (value (.bundle es)).step s = match Bundle.child? ⟨es⟩ s.text with
      | some v => .ok (value v)
      | none => .error .noChild := rfl

theorem step_of_size? {r : Target} {n : Nat} (h : r.size? = some n) (s : Segment) :
    r.step s = match s.index?.bind r.item? with
      | some t => .ok t
      | none => .error (.outOfRange n) := by
  unfold step
  match r, h with
  | value (.list items), rfl =>
    cases s.index? with
    | none => rfl
    | some i => cases hi : items[i]? <;> simp [item?, hi]
  | value (.choices cs), rfl =>
    cases s.index? with
    | none => rfl
    | some i => cases hi : cs[i]? <;> simp [item?, hi]
  | choice c, rfl =>
    cases s.index? with
    | none => rfl
    | some i => cases hi : c.field? i <;> simp [item?, hi]

/-- The numbered places are those below the size. -/
theorem isSome_item?_iff {r : Target} {n : Nat} (h : r.size? = some n) {i : Nat} :
    (r.item? i).isSome = true ↔ i < n := by
  match r, h with
  | value (.list items), rfl => simp [item?]
  | value (.choices cs), rfl => simp [item?]
  | choice c, rfl =>
    match i with
    | 0 | 1 => simp [item?, Choice.field?]
    | i + 2 => simp [item?, Choice.field?]

/-- Places are numbered where something stands at one of them. -/
theorem exists_size?_of_item? {r t : Target} {i : Nat} (h : r.item? i = some t) : ∃ n, r.size? = some n := by
  match r, h with
  | value (.list _), _ | value (.choices _), _ | choice _, _ => exact ⟨_, rfl⟩

/-- Where a step leads: to a child of a section, or to a numbered place. -/
theorem step_eq_ok_iff {r t : Target} {s : Segment} :
    r.step s = .ok t ↔
      (∃ es v, r = value (.bundle es) ∧ Bundle.child? ⟨es⟩ s.text = some v ∧ t = value v) ∨
      (∃ n i, r.size? = some n ∧ s.index? = some i ∧ r.item? i = some t) := by
  constructor
  · intro h
    cases hn : r.size? with
    | some n =>
      rw [step_of_size? hn] at h
      split at h
      · next ht =>
        cases h
        obtain ⟨i, hi, ht⟩ := Option.bind_eq_some_iff.1 ht
        exact .inr ⟨n, i, rfl, hi, ht⟩
      · cases h
    | none =>
      match r, hn with
      | value (.bundle es), _ =>
        rw [step_bundle] at h
        split at h
        · next v hv =>
          cases h
          exact .inl ⟨es, v, rfl, hv, rfl⟩
        · cases h
      | value (.text _), _ => cases h
      | text _, _ => cases h
  · rintro (⟨es, v, rfl, hv, rfl⟩ | ⟨n, i, hn, hi, ht⟩)
    · rw [step_bundle, hv]
    · rw [step_of_size? hn, hi, Option.bind_some, ht]

/-- Why a step cannot be taken. -/
theorem step_eq_error_iff {r : Target} {s : Segment} {stuck : Stuck} :
    r.step s = .error stuck ↔
      (∃ es, r = value (.bundle es) ∧ Bundle.child? ⟨es⟩ s.text = none ∧ stuck = .noChild) ∨
      (∃ n, r.size? = some n ∧ s.index?.bind r.item? = none ∧ stuck = .outOfRange n) ∨
      (∃ t, r.text? = some t ∧ stuck = .notAContainer .text) := by
  constructor
  · intro h
    cases hn : r.size? with
    | some n =>
      rw [step_of_size? hn] at h
      split at h
      · cases h
      · next ht =>
        cases h
        exact .inr (.inl ⟨n, rfl, ht, rfl⟩)
    | none =>
      match r, hn with
      | value (.bundle es), _ =>
        rw [step_bundle] at h
        split at h
        · cases h
        · next hv =>
          cases h
          exact .inl ⟨es, rfl, hv, rfl⟩
      | value (.text t), _ =>
        cases h
        exact .inr (.inr ⟨t, rfl, rfl⟩)
      | text t, _ =>
        cases h
        exact .inr (.inr ⟨t, rfl, rfl⟩)
  · rintro (⟨es, rfl, hv, rfl⟩ | ⟨n, hn, ht, rfl⟩ | ⟨t, ht, rfl⟩)
    · rw [step_bundle, hv]
    · rw [step_of_size? hn, ht]
    · match r, ht with
      | value (.text _), _ => rfl
      | text _, _ => rfl

/-! ## Runs of steps -/

/-- The place that segments lead to. -/
def reach (r : Target) (segments : List Segment) : Except Stuck Target := segments.foldlM step r

theorem reach_cons (r : Target) (s : Segment) (segments : List Segment) :
    r.reach (s :: segments) = r.step s >>= fun t => t.reach segments := List.foldlM_cons

theorem reach_append (r : Target) (front back : List Segment) :
    r.reach (front ++ back) = r.reach front >>= fun t => t.reach back := List.foldlM_append

/-- One more segment is one more step. -/
theorem reach_concat {r t : Target} {front : List Segment} (h : r.reach front = .ok t) (s : Segment) :
    r.reach (front ++ [s]) = t.step s := by
  rw [reach_append, h]
  show t.reach [s] = t.step s
  rw [reach_cons]
  cases t.step s <;> rfl

variable {path separator walked : String}

theorem follow_eq_ok_iff {r t : Target} {segments : List Segment} :
    follow path separator walked r segments = .ok t ↔ r.reach segments = .ok t := by
  induction segments generalizing r walked with
  | nil => exact ⟨fun h => Except.ok.inj h ▸ rfl, fun h => Except.ok.inj h ▸ rfl⟩
  | cons s segments ih =>
    rw [follow, reach_cons]
    cases r.step s with
    | ok u => exact ih
    | error stuck => exact ⟨nofun, nofun⟩

/-- A run ends with an error when it cannot take some step from where the segments before it lead. -/
theorem follow_eq_error_iff {r : Target} {segments : List Segment} {e : LookupError} :
    follow path separator walked r segments = .error e ↔
      ∃ front s back t stuck, segments = front ++ s :: back ∧ r.reach front = .ok t ∧
        t.step s = .error stuck ∧
        e = .ofStuck path (front.foldl (fun out s => s.appendTo out separator) walked) s stuck := by
  induction segments generalizing r walked with
  | nil =>
    refine ⟨nofun, ?_⟩
    rintro ⟨front, s, back, t, stuck, h, -⟩
    cases front <;> cases h
  | cons s segments ih =>
    rw [follow]
    cases hs : r.step s with
    | ok u =>
      dsimp only
      rw [ih]
      constructor
      · rintro ⟨front, s', back, t, stuck, rfl, ht, hstuck, rfl⟩
        exact ⟨s :: front, s', back, t, stuck, rfl, by rw [reach_cons, hs]; exact ht, hstuck, rfl⟩
      · rintro ⟨front, s', back, t, stuck, h, ht, hstuck, rfl⟩
        cases front with
        | nil =>
          cases h
          cases ht
          rw [hs] at hstuck
          cases hstuck
        | cons x front =>
          cases h
          rw [reach_cons, hs] at ht
          exact ⟨front, s', back, t, stuck, rfl, ht, hstuck, rfl⟩
    | error stuck =>
      constructor
      · intro h
        cases h
        exact ⟨[], s, segments, r, stuck, rfl, rfl, hs, rfl⟩
      · rintro ⟨front, s', back, t, stuck', h, ht, hstuck, rfl⟩
        cases front with
        | nil =>
          cases h
          cases ht
          rw [hs] at hstuck
          cases hstuck
          rfl
        | cons x front =>
          cases h
          rw [reach_cons, hs] at ht
          cases ht

/-! ## What holds everywhere in a bundle -/

/-- `P` holds of the value, if one was found, and of all values within it. -/
def Everywhere (P : Value → Prop) : Target → Prop
  | value v => v.Everywhere P
  | _ => True

/-- There are no values at numbered places. -/
theorem Everywhere.of_item? {P : Value → Prop} {r t : Target} {i : Nat} (h : r.item? i = some t) :
    t.Everywhere P := by
  match r, h with
  | value (.list items), h | value (.choices cs), h | choice c, h =>
    obtain ⟨x, -, rfl⟩ := Option.map_eq_some_iff.1 h
    trivial

/-- Steps do not lead out of a value. -/
theorem Everywhere.step {P : Value → Prop} {r t : Target} {s : Segment} (h : r.Everywhere P)
    (hs : r.step s = .ok t) : t.Everywhere P := by
  rcases step_eq_ok_iff.1 hs with ⟨es, v, rfl, hv, rfl⟩ | ⟨n, i, -, -, ht⟩
  · exact (Value.everywhere_bundle_iff.1 h).2 _ (Bundle.mem_of_child?_eq_some hv)
  · exact .of_item? ht

theorem Everywhere.reach {P : Value → Prop} {r t : Target} {segments : List Segment}
    (h : r.Everywhere P) (hs : r.reach segments = .ok t) : t.Everywhere P := by
  induction segments generalizing r with
  | nil => exact Except.ok.inj hs ▸ h
  | cons s segments ih =>
    rw [reach_cons] at hs
    cases hr : r.step s with
    | error e => rw [hr] at hs; cases hs
    | ok u =>
      rw [hr] at hs
      exact ih (h.step hr) hs

/-- A place counted in 64 bits has every position below its size. -/
theorem size?_lt {r : Target} {n : Nat} (h : r.Everywhere fun v => v.places < Nat.pow 2 64)
    (hn : r.size? = some n) : n < Nat.pow 2 64 := by
  match r, hn with
  | value (.list items), rfl => exact h.here
  | value (.choices cs), rfl => exact h.here
  | choice c, rfl => decide

/-- A step to a numbered place fails only if the segment is the numeral of none of them. -/
theorem text_ne_of_bind_eq_none {r : Target} {n : Nat} {s : Segment}
    (h : r.Everywhere fun v => v.places < Nat.pow 2 64) (hn : r.size? = some n)
    (hs : s.index?.bind r.item? = none) {i : Nat} (hi : i < n) : s.text ≠ toString i := by
  intro e
  have hpos : s.index? = some i := Segment.index?_eq_some_iff.2 ⟨Nat.lt_trans hi (size?_lt h hn), e⟩
  rw [hpos, Option.bind_some] at hs
  have := (isSome_item?_iff hn).2 hi
  rw [hs] at this
  cases this

end Target

/-! ## Lookups -/

namespace Bundle

/-- The bundle as a place. -/
def root (b : Bundle) : Target := .value (.bundle b.entries)

theorem KeysUnique.root {b : Bundle} (h : b.KeysUnique) :
    b.root.Everywhere fun v => (v.entries.map (·.1)).Nodup := Value.keysUnique_iff.1 h

theorem lookup_of_parse {b : Bundle} {path separator : String} {p : KeyPath}
    (h : KeyPath.parse path separator = .ok p) :
    b.lookup path separator = Target.follow path separator "" b.root p.segments := by
  rw [lookup, h]
  rfl

theorem lookup_eq_ok_iff {b : Bundle} {path separator : String} {t : Target} :
    b.lookup path separator = .ok t ↔
      ∃ p, KeyPath.parse path separator = .ok p ∧ b.root.reach p.segments = .ok t := by
  constructor
  · intro h
    cases hp : KeyPath.parse path separator with
    | ok p =>
      rw [lookup_of_parse hp, Target.follow_eq_ok_iff] at h
      exact ⟨p, rfl, h⟩
    | error e => rw [lookup, hp] at h; cases h
  · rintro ⟨p, hp, h⟩
    rw [lookup_of_parse hp, Target.follow_eq_ok_iff]
    exact h

theorem lookup_eq_error_iff {b : Bundle} {path separator : String} {e : LookupError} :
    b.lookup path separator = .error e ↔
      (∃ f, KeyPath.parse path separator = .error f ∧ e = .badPath f) ∨
      ∃ front s back t stuck, KeyPath.parse path separator = .ok ⟨front ++ s :: back⟩ ∧
        b.root.reach front = .ok t ∧ t.step s = .error stuck ∧
        e = .ofStuck path (KeyPath.render ⟨front⟩ separator) s stuck := by
  cases hp : KeyPath.parse path separator with
  | ok p =>
    obtain ⟨segments⟩ := p
    rw [lookup_of_parse hp, Target.follow_eq_error_iff]
    constructor
    · rintro ⟨front, s, back, t, stuck, rfl, h⟩
      exact .inr ⟨front, s, back, t, stuck, rfl, h⟩
    · rintro (⟨f, hf, -⟩ | ⟨front, s, back, t, stuck, h, hr⟩)
      · cases hf
      · cases h
        exact ⟨front, s, back, t, stuck, rfl, hr⟩
  | error f =>
    rw [lookup, hp]
    constructor
    · intro h
      cases h
      exact .inl ⟨f, rfl, rfl⟩
    · rintro (⟨f, hf, rfl⟩ | ⟨front, s, back, t, stuck, h, -⟩)
      · cases hf
        rfl
      · cases h

end Bundle

end TripLocale
