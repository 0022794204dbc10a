/-
The part of a flat list at and below a full key is the flat list of what stands there: `Stands separator b key t`
says that `t` stands in `b` under the full key `key`, and `flattenUnder_stands` lists what `flattenUnder` gives for
`key` by the kind of `t`.

A full key is compared with the others as text. With plain keys the text of a place begins with that of another
exactly when its segments do (`KeysPlain.flattenUnder_flatKey`), so what is left is about segments: part by part,
the leaves behind the segments of a place are its own (`Site.leaves`).
-/
import TripLocale.Proofs.Bundle.Below

namespace TripLocale

/-! ## Places under full keys -/

namespace Bundle

variable {separator key : String} {b : Bundle} {t u : Target} {s : Segment} {segments : List Segment}

/-- `b.Stands separator key t`: `t` stands in `b` under the full key `key`, the keys on the way joined by the
separator, with the positions in brackets. -/
inductive Stands (separator : String) (b : Bundle) : String → Target → Prop
  | top {k : String} {v : Value} : (k, v) ∈ b.entries → Stands separator b k (.value v)
  | entry {key k : String} {es : List (String × Value)} {v : Value} :
      Stands separator b key (.value (.bundle es)) → (k, v) ∈ es →
      Stands separator b (key ++ separator ++ k) (.value v)
  | item {key : String} {r t : Target} {i : Nat} :
      Stands separator b key r → r.item? i = some t → Stands separator b (indexedKey key i) t

/-- What the segments of a place have to do with the bundle: they are plain, the full key is their text, and the
leaves behind them are those of the place. -/
structure Site (separator : String) (b : Bundle) (segments : List Segment) (key : String) (t : Target) :
    Prop where
  plain : ∀ s ∈ segments, KeyPath.PlainSegment separator s
  key_eq : key = flatKey separator segments
  keysPlain : t.Everywhere fun v => ∀ e ∈ v.entries, KeyPath.PlainKey separator e.1
  keysUnique : t.Everywhere fun v => (v.entries.map (·.1)).Nodup
  leaves : b.root.leaves.filter (fun l => segments.isPrefixOf l.1) =
    t.leaves.map fun l => (segments ++ l.1, l.2)

theorem site_root (hp : b.KeysPlain separator) (hu : b.KeysUnique) : b.Site separator [] "" b.root where
  plain := by simp
  key_eq := rfl
  keysPlain := hp
  keysUnique := hu.root
  leaves := by simp

/-- One more segment leads to a part of a place. -/
theorem Site.part (h : b.Site separator segments key u) (hp : Target.Part u s t) :
    b.Site separator (segments ++ [s]) (s.appendTo key separator) t where
  plain := by
    intro r hr
    rcases List.mem_append.1 hr with hr | hr
    · exact h.plain r hr
    · exact List.mem_singleton.1 hr ▸ hp.plain h.keysPlain
  key_eq := by rw [h.key_eq, flatKey_concat]
  keysPlain := hp.everywhere h.keysPlain
  keysUnique := hp.everywhere h.keysUnique
  leaves := by
    rw [filter_append_isPrefixOf segments [s] h.leaves, hp.filter_leaves h.keysUnique, List.map_map]
    simp

theorem Site.key_ne_empty (hs : KeyPath.PlainSeparator separator) (h : b.Site separator segments key t)
    (hne : segments ≠ []) : key ≠ "" := by
  rw [h.key_eq]
  exact (KeyPath.writable_of_plain hs hne h.plain).render_ne_empty

/-- What stands under a full key stands behind segments. -/
theorem Stands.exists_site (hs : KeyPath.PlainSeparator separator) (hp : b.KeysPlain separator)
    (hu : b.KeysUnique) (h : b.Stands separator key t) :
    ∃ segments, segments ≠ [] ∧ b.Site separator segments key t := by
  induction h with
  | @top k v he => exact ⟨[.key k], by simp, (site_root hp hu).part (.entry he)⟩
  | @entry key k es v _ he ih =>
    obtain ⟨segments, hne, hsite⟩ := ih
    have hkey : (Segment.key k).appendTo key separator = key ++ separator ++ k := by
      rw [Segment.appendTo, String.isEmpty_eq_false_iff.2 (hsite.key_ne_empty hs hne)]
      rfl
    have hpart := hsite.part (.entry he)
    rw [hkey] at hpart
    exact ⟨segments ++ [.key k], by simp, hpart⟩
  | @item key r t i _ hi ih =>
    obtain ⟨segments, hne, hsite⟩ := ih
    exact ⟨segments ++ [.position i], by simp, hsite.part (.item hi)⟩

/-- The texts at and below the full key of a place are its leaves. -/
theorem Site.flattenUnder_eq (hs : KeyPath.PlainSeparator separator) (hp : b.KeysPlain separator)
    (h : b.Site separator segments key t) (hne : segments ≠ []) :
    b.flattenUnder key separator = underKeys separator segments t.leaves := by
  rw [h.key_eq, hp.flattenUnder_flatKey hs hne h.plain, h.leaves, underKeys, underKeys, List.map_map]
  rfl

end Bundle

/-! ## Flat lists under longer keys -/

theorem indexedKey_append (front key : String) (i : Nat) :
    indexedKey (front ++ key) i = front ++ indexedKey key i := by
  simp [indexedKey, String.append_assoc]

theorem Choice.flatten_append (front key : String) (c : Choice) :
    c.flatten (front ++ key) = (c.flatten key).map fun e => (front ++ e.1, e.2) := by
  simp [flatten, indexedKey_append]

/-- More text in front of the full key of a value stands in front of the full keys of its texts. -/
theorem Value.flatten_append (separator front key : String) (v : Value) :
    v.flatten separator (front ++ key) = (v.flatten separator key).map fun e => (front ++ e.1, e.2) := by
  induction v generalizing key with
  | text t => rfl
  | list items =>
    simp only [flatten, List.mapIdx_eq_zipIdx_map, List.map_map, indexedKey_append]
    rfl
  | choices cs =>
    simp only [flatten, List.mapIdx_eq_zipIdx_map, List.map_flatten, List.map_map, indexedKey_append,
      Choice.flatten_append]
    rfl
  | bundle es ih =>
    rw [flatten, flatten, flattenEntries_eq_flatMap, flattenEntries_eq_flatMap, List.map_flatMap]
    apply List.flatMap_congr
    intro e he
    rw [← ih e he, String.append_assoc, String.append_assoc, String.append_assoc]

namespace Bundle

variable {separator key : String} {b : Bundle} {t : Target}

theorem flatten_bundle (separator key : String) (c : Bundle) :
    (Value.bundle c.entries).flatten separator key =
      (c.flatten separator).map fun e => (key ++ separator ++ e.1, e.2) := by
  rw [Value.flatten, Bundle.flatten, Value.flattenEntries_eq_flatMap, Value.flattenEntries_eq_flatMap,
    List.map_flatMap]
  apply List.flatMap_congr
  intro e _
  exact e.2.flatten_append separator (key ++ separator) e.1

/-- The texts at and below the full key of a place are the texts of that place alone, in their order. -/
theorem flattenUnder_stands (hs : KeyPath.PlainSeparator separator) (hp : b.KeysPlain separator)
    (hu : b.KeysUnique) (h : b.Stands separator key t) :
    (∀ c : Bundle, t = .value (.bundle c.entries) →
      b.flattenUnder key separator =
        (c.flatten separator).map fun e => (key ++ separator ++ e.1, e.2)) ∧
    (∀ items, t = .value (.list items) →
      b.flattenUnder key separator = items.mapIdx fun i x => (indexedKey key i, x)) ∧
    (∀ cs, t = .value (.choices cs) →
      b.flattenUnder key separator = (cs.mapIdx fun i c =>
        [(indexedKey (indexedKey key i) 0, c.value), (indexedKey (indexedKey key i) 1, c.label)]).flatten) ∧
    (∀ c, t = .choice c →
      b.flattenUnder key separator = [(indexedKey key 0, c.value), (indexedKey key 1, c.label)]) ∧
    ∀ x, t.text? = some x → b.flattenUnder key separator = [(key, x)] := by
  obtain ⟨segments, hne, hsite⟩ := h.exists_site hs hp hu
  have hall := hsite.flattenUnder_eq hs hp hne
  have hkey : flatKey separator segments ≠ "" := hsite.key_eq ▸ hsite.key_ne_empty hs hne
  have hvalue : ∀ v, t = .value v → b.flattenUnder key separator = v.flatten separator key := by
    rintro v rfl
    have hkeys : v.Everywhere fun w => ∀ e ∈ w.entries, e.1 ≠ "" := fun w hw e he =>
      (hsite.keysPlain w hw e he).ne_empty
    rw [hall, hsite.key_eq, Value.flatten_eq_underKeys hkeys hkey]
    rfl
  refine ⟨?_, ?_, ?_, ?_, ?_⟩
  · intro c ht
    rw [hvalue _ ht, flatten_bundle]
  · intro items ht
    rw [hvalue _ ht, Value.flatten]
  · intro cs ht
    rw [hvalue _ ht, Value.flatten]
    rfl
  · rintro c rfl
    rw [hall, Target.leaves, ← Choice.flatten_eq_underKeys, ← hsite.key_eq]
    rfl
  · intro x hx
    rw [hall, Target.leaves_of_text? hx, underKeys_textLeaves, ← hsite.key_eq]

/-- The one choice of the small bundle, and the section of months. -/
theorem flattenUnder_stands_planner :
    KeyPath.PlainSeparator "." ∧ planner.KeysPlain "." ∧ planner.KeysUnique ∧
      planner.Stands "." "mode[0]" (.choice ⟨"WALK", "Pieszo"⟩) ∧
      planner.flattenUnder "mode[0]" "." = [("mode[0][0]", "WALK"), ("mode[0][1]", "Pieszo")] ∧
      planner.Stands "." "time" (.value (.bundle [("months", .list ["Sty", "Lut"])])) ∧
      planner.flattenUnder "time" "." = [("time.months[0]", "Sty"), ("time.months[1]", "Lut")] := by
  have hp : planner.KeysPlain "." := planner_keysPlain (by decide)
  have hmode : planner.Stands "." (indexedKey "mode" 0) (.choice ⟨"WALK", "Pieszo"⟩) :=
    .item (.top (List.mem_of_getElem? (i := 1) rfl)) rfl
  have htime : planner.Stands "." "time" (.value (.bundle [("months", .list ["Sty", "Lut"])])) :=
    .top (List.mem_of_getElem? (i := 0) rfl)
  have hs := KeyPath.plainSeparator_dot
  obtain ⟨-, -, -, hchoice, -⟩ := flattenUnder_stands hs hp planner_keysUnique hmode
  obtain ⟨hsection, -⟩ := flattenUnder_stands hs hp planner_keysUnique htime
  refine ⟨hs, hp, planner_keysUnique, hmode, hchoice _ rfl, htime, ?_⟩
  rw [hsection ⟨[("months", .list ["Sty", "Lut"])]⟩ rfl]
  decide +kernel

end Bundle

end TripLocale
