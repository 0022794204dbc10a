/-
Values as trees: induction over a value and the values of its entries, what stands within a value, and
predicates that hold everywhere in it.

`Everywhere P v` says `P` of `v` and of every value within `v`; unique keys (`keysUnique_iff`), lists whose
positions fit 64 bits and the absence of empty lists of choices are all of this form.
-/
import TripLocale.Bundle.Json

namespace TripLocale

/-! ## Entries by key -/

/-- Among entries with distinct keys each is found by its key. -/
theorem find?_key_of_mem {α : Type} {es : List (String × α)} (hu : (es.map (·.1)).Nodup) {key : String}
    {v : α} (h : (key, v) ∈ es) : (es.find? (·.1 == key)).map (·.2) = some v := by
  induction es with
  | nil => cases h
  | cons e es ih =>
    obtain ⟨k, w⟩ := e
    rw [List.map_cons, List.nodup_cons] at hu
    by_cases hk : k = key
    · subst hk
      rcases List.mem_cons.1 h with h | h
      · cases h
        simp
      · exact absurd (List.mem_map_of_mem h) hu.1
    · have hne : (key, v) ≠ (k, w) := fun e => hk (congrArg Prod.fst e).symm
      have := ih hu.2 ((List.mem_cons.1 h).resolve_left hne)
      simpa [hk] using this

/-- What is found by a key stands under it. -/
theorem mem_of_find?_key {α : Type} {es : List (String × α)} {key : String} {v : α}
    (h : (es.find? (·.1 == key)).map (·.2) = some v) : (key, v) ∈ es := by
  obtain ⟨⟨k, w⟩, he, rfl⟩ := Option.map_eq_some_iff.1 h
  obtain rfl : k = key := by simpa using List.find?_some he
  exact List.mem_of_find?_eq_some he

namespace Value

/-! ## Induction -/

theorem sizeOf_entry_lt {e : String × Value} {entries : List (String × Value)} (h : e ∈ entries) :
    sizeOf e.2 < sizeOf (bundle entries) := by
  have he : sizeOf e < sizeOf entries := List.sizeOf_lt_of_mem h
  obtain ⟨k, v⟩ := e
  simp only [Prod.mk.sizeOf_spec] at he
  simp only [bundle.sizeOf_spec]
  omega

/-- Induction over a value: for a section, the claim may be used for the value of each entry. -/
@[elab_as_elim, induction_eliminator]
theorem induct {motive : Value → Prop} (text : ∀ t, motive (.text t))
    (list : ∀ items, motive (.list items)) (choices : ∀ cs, motive (.choices cs))
    (bundle : ∀ entries, (∀ e ∈ entries, motive e.2) → motive (.bundle entries)) (v : Value) :
    motive v :=
  match v with
  | .text t => text t
  | .list items => list items
  | .choices cs => choices cs
  | .bundle entries => bundle entries fun e _ => induct text list choices bundle e.2
termination_by sizeOf v
decreasing_by exact sizeOf_entry_lt ‹_›

/-! ## Values within a value -/

/-- The entries of a section. -/
def entries : Value → List (String × Value)
  | .bundle entries => entries
  | _ => []

/-- The number of places in a list or a list of choices. -/
def places : Value → Nat
  | .list items => items.length
  | .choices cs => cs.length
  | _ => 0

/-- `Within u v`: `u` is `v`, or stands in an entry at some depth of `v`. -/
inductive Within : Value → Value → Prop
  | refl (v : Value) : Within v v
  | entry {u : Value} {e : String × Value} {entries : List (String × Value)} :
      e ∈ entries → Within u e.2 → Within u (.bundle entries)

/-- `P` holds of the value and of all values within it. -/
def Everywhere (P : Value → Prop) (v : Value) : Prop := ∀ u, Within u v → P u

theorem Everywhere.here {P : Value → Prop} {v : Value} (h : v.Everywhere P) : P v := h v (.refl v)

theorem everywhere_bundle_iff {P : Value → Prop} {es : List (String × Value)} :
    (Value.bundle es).Everywhere P ↔ P (.bundle es) ∧ ∀ e ∈ es, e.2.Everywhere P := by
  constructor
  · exact fun h => ⟨h.here, fun e he u hu => h u (.entry he hu)⟩
  · rintro ⟨h, hes⟩ u hu
    cases hu with
    | refl => exact h
    | entry he hu => exact hes _ he u hu

theorem everywhere_iff_of_ne_bundle {P : Value → Prop} {v : Value} (hv : ∀ es, v ≠ .bundle es) :
    v.Everywhere P ↔ P v := by
  refine ⟨Everywhere.here, fun h u hu => ?_⟩
  cases hu with
  | refl => exact h
  | entry he hu => cases hv _ rfl

@[simp] theorem everywhere_text_iff {P : Value → Prop} {t : String} :
    (Value.text t).Everywhere P ↔ P (.text t) := everywhere_iff_of_ne_bundle nofun

@[simp] theorem everywhere_list_iff {P : Value → Prop} {items : List String} :
    (Value.list items).Everywhere P ↔ P (.list items) := everywhere_iff_of_ne_bundle nofun

@[simp] theorem everywhere_choices_iff {P : Value → Prop} {cs : List Choice} :
    (Value.choices cs).Everywhere P ↔ P (.choices cs) := everywhere_iff_of_ne_bundle nofun

/-! ## Unique keys -/

theorem entriesUnique_iff {es : List (String × Value)} : EntriesUnique es ↔ ∀ e ∈ es, e.2.KeysUnique := by
  induction es with
  | nil => simp [EntriesUnique]
  | cons e es ih => rw [EntriesUnique, ih, List.forall_mem_cons]

theorem keysUnique_bundle_iff {es : List (String × Value)} :
    (Value.bundle es).KeysUnique ↔ (es.map (·.1)).Nodup ∧ ∀ e ∈ es, e.2.KeysUnique := by
  rw [KeysUnique, entriesUnique_iff]

/-- Keys are unique when they are in every section. -/
theorem keysUnique_iff {v : Value} :
    v.KeysUnique ↔ v.Everywhere fun u => (u.entries.map (·.1)).Nodup := by
  induction v with
  | text t => simp [KeysUnique, entries]
  | list items => simp [KeysUnique, entries]
  | choices cs => simp [KeysUnique, entries]
  | bundle es ih =>
    rw [keysUnique_bundle_iff, everywhere_bundle_iff]
    exact and_congr_right fun _ => forall₂_congr ih

/-! ## Entries as members -/

theorem entriesToJson_eq_map (es : List (String × Value)) :
    entriesToJson es = es.map fun e => (e.1, e.2.toJson) := by
  induction es with
  | nil => rfl
  | cons e es ih => rw [entriesToJson, ih, List.map_cons]

end Value

namespace Bundle

/-- `P` holds of the bundle as a value and of all values within it. -/
def Everywhere (P : Value → Prop) (b : Bundle) : Prop := (Value.bundle b.entries).Everywhere P

/-- All positions in the lists and the lists of choices of the bundle have at most 64 bits. -/
def ListsFit (b : Bundle) : Prop := b.Everywhere fun v => v.places < Nat.pow 2 64

/-! ## A small bundle -/

/-- A bundle with a value of each kind. -/
def planner : Bundle :=
  ⟨[("time", .bundle [("months", .list ["Sty", "Lut"])]), ("mode", .choices [⟨"WALK", "Pieszo"⟩]),
    ("ok", .text "OK")]⟩

theorem planner_keysUnique : planner.KeysUnique := by
  simp [planner, KeysUnique, Value.KeysUnique, Value.EntriesUnique]

theorem planner_listsFit : planner.ListsFit := by
  simp [planner, ListsFit, Everywhere, Value.everywhere_bundle_iff, Value.places]

end Bundle

end TripLocale
