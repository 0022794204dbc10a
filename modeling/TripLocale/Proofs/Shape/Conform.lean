/-
Which bundles the shape check accepts: those that hold, at every place of the table, a value of the kind
and size asked for, and no key in a section that the check does not know (`shapeErrors_eq_nil_iff`).

In a section of fields the keys known are those of the table. In the section of message texts the check
reads a key as a number, so it also lets a code stand under another spelling of its number, with any value.
`Bundle.HasShape` asks for the listed keys and for no others, and it is this leniency by which it differs
from an empty report (`hasShape_iff`).
-/
import TripLocale.Proofs.Bundle.RoundTrip
import TripLocale.Proofs.Shape.Sections
import TripLocale.Shape.Check

namespace TripLocale

/-! ## Values under keys -/

namespace Value

/-- The value under a key, in a section. -/
def child? (v : Value) (key : String) : Option Value := v.bundle?.bind (·.child? key)

/-- The value that keys lead to, from section to section. -/
def under? (v : Value) (keys : List String) : Option Value := keys.foldlM child? v

theorem under?_nil (v : Value) : v.under? [] = some v := rfl

theorem under?_cons (v : Value) (k : String) (keys : List String) :
    v.under? (k :: keys) = (v.child? k).bind (·.under? keys) := List.foldlM_cons

theorem under?_concat (v : Value) (keys : List String) (k : String) :
    v.under? (keys ++ [k]) = (v.under? keys).bind (·.child? k) := by
  induction keys generalizing v with
  | nil => simp [under?_cons, under?_nil]
  | cons k' keys ih => simp only [List.cons_append, under?_cons, ih, Option.bind_assoc]

theorem child?_eq_some_iff {v w : Value} {k : String} :
    v.child? k = some w ↔ ∃ es, v = .bundle es ∧ Bundle.child? ⟨es⟩ k = some w := by
  cases v with
  | bundle es => simp [child?, bundle?]
  | _ => simp [child?, bundle?]

theorem within_of_under?_eq_some {v u : Value} {keys : List String} (h : v.under? keys = some u) :
    Within u v := by
  induction keys generalizing v with
  | nil =>
    cases h
    exact .refl _
  | cons k keys ih =>
    rw [under?_cons] at h
    obtain ⟨w, hw, hu⟩ := Option.bind_eq_some_iff.1 h
    obtain ⟨es, rfl, hw⟩ := child?_eq_some_iff.1 hw
    exact .entry (Bundle.mem_of_child?_eq_some hw) (ih hu)

theorem exists_child?_of_mem {es : List (String × Value)} {k : String} (h : k ∈ es.map (·.1)) :
    ∃ w, (Value.bundle es).child? k = some w ∧ (k, w) ∈ es := by
  cases hw : Bundle.child? ⟨es⟩ k with
  | none => exact absurd h (Bundle.child?_eq_none_iff.1 hw)
  | some w => exact ⟨w, child?_eq_some_iff.2 ⟨es, rfl, hw⟩, Bundle.mem_of_child?_eq_some hw⟩

end Value

theorem MessageCode.read?_key (c : MessageCode) : read? c.key = some c := by cases c <;> decide

namespace Shape

/-! ## What the check accepts -/

/-- The keys that the check lets stand in a section. -/
def Allows : Shape → String → Prop
  | fields entries, k => k ∈ entries.map (·.1)
  | messages, k => ∃ c, MessageCode.read? k = some c
  | _, _ => False

theorem allows_of_mem_keys {s : Shape} {k : String} (h : k ∈ s.entries.map (·.1)) : s.Allows k := by
  cases s with
  | fields es => exact h
  | messages =>
    rw [keys_messages] at h
    obtain ⟨c, -, rfl⟩ := List.mem_map.1 h
    exact ⟨c, MessageCode.read?_key c⟩
  | _ => cases h

/-- What the check asks of a value, the values under its keys apart. -/
structure Admits (s : Shape) (v : Value) : Prop where
  kind : v.kind = s.kind
  size : ∀ n, s = .list n → v.places = n
  keys : ∀ k ∈ v.entries.map (·.1), s.Allows k

/-- Every place of the shape is taken by a value that it admits. -/
def Accepts (s : Shape) (v : Value) : Prop :=
  ∀ keys t, Place s keys t → ∃ u, v.under? keys = some u ∧ t.Admits u

theorem accepts_iff {s : Shape} {v : Value} :
    s.Accepts v ↔ s.Admits v ∧ ∀ e ∈ s.entries, ∃ w, v.child? e.1 = some w ∧ e.2.Accepts w := by
  constructor
  · intro h
    refine ⟨?_, fun e he => ?_⟩
    · obtain ⟨u, hu, ha⟩ := h [] s (.here s)
      cases hu
      exact ha
    · have first : ∀ {keys t}, Place e.2 keys t →
          ∃ w u, v.child? e.1 = some w ∧ w.under? keys = some u ∧ t.Admits u := fun {keys t} hp => by
        obtain ⟨u, hu, ha⟩ := h (e.1 :: keys) t (.under he hp)
        obtain ⟨w, hw, hu⟩ := Option.bind_eq_some_iff.1 (Value.under?_cons v e.1 keys ▸ hu)
        exact ⟨w, u, hw, hu, ha⟩
      obtain ⟨w, -, hw, -, -⟩ := first (.here e.2)
      refine ⟨w, hw, fun keys t hp => ?_⟩
      obtain ⟨w', u, hw', hu, ha⟩ := first hp
      cases hw.symm.trans hw'
      exact ⟨u, hu, ha⟩
  · rintro ⟨ha, hes⟩ keys t hp
    cases hp with
    | here => exact ⟨v, rfl, ha⟩
    | under hm hp =>
      obtain ⟨w, hw, hacc⟩ := hes _ hm
      rw [Value.under?_cons, hw]
      exact hacc _ _ hp

theorem accepts_leaf_iff {s : Shape} {v : Value} (hs : s.kind ≠ .bundle) :
    s.Accepts v ↔ v.kind = s.kind ∧ ∀ n, s = .list n → v.places = n := by
  have hentries : s.entries = [] :=
    List.eq_nil_iff_forall_not_mem.2 fun e he => hs (kind_eq_bundle_of_mem_entries he)
  rw [accepts_iff, hentries]
  constructor
  · rintro ⟨h, -⟩
    exact ⟨h.kind, h.size⟩
  · rintro ⟨hk, hn⟩
    refine ⟨⟨hk, hn, ?_⟩, nofun⟩
    cases v with
    | bundle es => exact absurd hk.symm hs
    | _ => nofun

theorem accepts_text_iff {v : Value} : text.Accepts v ↔ v.kind = .text :=
  (accepts_leaf_iff (s := text) nofun).trans (and_iff_left nofun)

theorem accepts_choices_iff {v : Value} : choices.Accepts v ↔ v.kind = .choices :=
  (accepts_leaf_iff (s := choices) nofun).trans (and_iff_left nofun)

theorem accepts_list_iff {n : Nat} {v : Value} :
    (list n).Accepts v ↔ v.kind = .list ∧ v.places = n := by
  rw [accepts_leaf_iff (s := list n) nofun]
  exact and_congr_right fun _ => ⟨fun h => h n rfl, fun h m e => by cases e; exact h⟩

theorem Accepts.under? {s t : Shape} {v : Value} {keys : List String} (h : s.Accepts v)
    (hp : Place s keys t) : ∃ u, v.under? keys = some u ∧ t.Accepts u := by
  induction hp generalizing v with
  | here s => exact ⟨v, rfl, h⟩
  | under hm hp ih =>
    obtain ⟨w, hw, hacc⟩ := (accepts_iff.1 h).2 _ hm
    obtain ⟨u, hu, ht⟩ := ih hacc
    exact ⟨u, by rw [Value.under?_cons, hw]; exact hu, ht⟩

/-! ## The report -/

theorem check_of_kind_ne {path : String} {v : Value} {s : Shape} (h : v.kind ≠ s.kind) :
    check path v s = [.wrongKind path s.kind v.kind] := by
  cases s with
  | text =>
    cases v with
    | text t => exact absurd rfl h
    | _ => rfl
  | list n =>
    cases v with
    | list items => exact absurd rfl h
    | _ => rfl
  | choices =>
    cases v with
    | choices cs => exact absurd rfl h
    | _ => rfl
  | fields es =>
    cases v with
    | bundle vs => exact absurd rfl h
    | _ => rfl
  | messages =>
    cases v with
    | bundle vs => exact absurd rfl h
    | _ => rfl

theorem unexpected_eq_nil_iff {place : String → String} {known : String → Bool} {b : Bundle} :
    unexpected place known b = [] ↔ ∀ k ∈ b.entries.map (·.1), known k = true := by
  simp [unexpected, Bundle.keys]

theorem checkMessage_eq_nil_iff {place : String → String} {b : Bundle} {c : MessageCode} :
    checkMessage place b c = [] ↔ ∃ w, b.child? c.key = some w ∧ text.Accepts w := by
  rw [checkMessage]
  cases b.child? c.key with
  | none => simp
  | some w => cases w <;> simp [accepts_text_iff, Value.kind]

theorem checkFields_eq_nil_iff {place : String → String} {b : Bundle} {es : List (String × Shape)}
    (h : ∀ e ∈ es, ∀ path v, check path v e.2 = [] ↔ e.2.Accepts v) :
    checkFields place b es = [] ↔ ∀ e ∈ es, ∃ w, b.child? e.1 = some w ∧ e.2.Accepts w := by
  induction es with
  | nil => simp [checkFields]
  | cons e es ih =>
    obtain ⟨he, hes⟩ := List.forall_mem_cons.1 h
    rw [checkFields, List.append_eq_nil_iff, ih hes, List.forall_mem_cons]
    refine and_congr_left fun _ => ?_
    cases b.child? e.1 with
    | none => simp
    | some w => simp [he]

theorem exists_bundle_of_kind {s : Shape} {v : Value} (h : s.Accepts v) (hs : s.kind = .bundle) :
    ∃ es, v = .bundle es := by
  have hk := (accepts_iff.1 h).1.kind.trans hs
  cases v with
  | bundle es => exact ⟨es, rfl⟩
  | _ => cases hk

theorem exists_text_of_accepts {v : Value} (h : text.Accepts v) : ∃ t, v = .text t := by
  have hk := (accepts_iff.1 h).1.kind
  cases v with
  | text t => exact ⟨t, rfl⟩
  | _ => cases hk

/-- A section is accepted when its keys are known and the value under each key of the table is accepted. -/
theorem accepts_bundle_iff {s : Shape} (hs : s.kind = .bundle) {es : List (String × Value)} :
    s.Accepts (.bundle es) ↔
      (∀ e ∈ s.entries, ∃ w, Bundle.child? ⟨es⟩ e.1 = some w ∧ e.2.Accepts w) ∧
        ∀ k ∈ es.map (·.1), s.Allows k := by
  have hadmits : s.Admits (.bundle es) ↔ ∀ k ∈ es.map (·.1), s.Allows k := by
    refine ⟨fun h => h.keys, fun h => ⟨hs.symm, ?_, h⟩⟩
    rintro n rfl
    cases hs
  rw [accepts_iff, hadmits, and_comm]
  simp [Value.child?, Value.bundle?]

theorem check_eq_nil_iff_of_kind {path : String} {v : Value} {s : Shape}
    (h : v.kind = s.kind → (check path v s = [] ↔ s.Accepts v)) :
    check path v s = [] ↔ s.Accepts v := by
  by_cases hk : v.kind = s.kind
  · exact h hk
  · rw [check_of_kind_ne hk]
    exact ⟨nofun, fun ha => absurd (accepts_iff.1 ha).1.kind hk⟩

/-- Nothing is reported exactly of the values that the shape accepts. -/
theorem check_eq_nil_iff {path : String} {v : Value} {s : Shape} :
    check path v s = [] ↔ s.Accepts v := by
  induction s generalizing path v with
  | text =>
    refine check_eq_nil_iff_of_kind fun hk => ?_
    cases v with
    | text t => simp [check, accepts_text_iff, Value.kind]
    | _ => cases hk
  | list n =>
    refine check_eq_nil_iff_of_kind fun hk => ?_
    cases v with
    | list items => simp [check, accepts_list_iff, Value.kind, Value.places]
    | _ => cases hk
  | choices =>
    refine check_eq_nil_iff_of_kind fun hk => ?_
    cases v with
    | choices cs => simp [check, accepts_choices_iff, Value.kind]
    | _ => cases hk
  | fields es ih =>
    refine check_eq_nil_iff_of_kind fun hk => ?_
    cases v with
    | bundle vs =>
      rw [check, List.append_eq_nil_iff, checkFields_eq_nil_iff fun e he _ _ => ih e he,
        unexpected_eq_nil_iff, accepts_bundle_iff rfl]
      simp [Allows, entries]
    | _ => cases hk
  | messages =>
    refine check_eq_nil_iff_of_kind fun hk => ?_
    cases v with
    | bundle vs =>
      rw [check, checkMessages, List.append_eq_nil_iff, List.flatMap_eq_nil_iff, unexpected_eq_nil_iff,
        accepts_bundle_iff rfl]
      simp [Allows, entries, checkMessage_eq_nil_iff, Option.isSome_iff_exists]
    | _ => cases hk

/-! ## A sample -/

mutual

/-- A value of the shape that says `t` everywhere, with `more` behind its message texts. -/
def sample (t : String) (more : List (String × Value)) : Shape → Value
  | text => .text t
  | list n => .list (List.replicate n t)
  | choices => .choices [⟨t, t⟩]
  | fields entries => .bundle (sampleEntries t more entries)
  | messages => .bundle (MessageCode.all.map (fun c => (c.key, .text t)) ++ more)

def sampleEntries (t : String) (more : List (String × Value)) :
    List (String × Shape) → List (String × Value)
  | [] => []
  | (k, s) :: entries => (k, sample t more s) :: sampleEntries t more entries

end

section Sample

variable (t : String) {more : List (String × Value)}

theorem sampleEntries_eq_map (es : List (String × Shape)) :
    sampleEntries t more es = es.map fun e => (e.1, e.2.sample t more) := by
  induction es with
  | nil => rfl
  | cons e es ih => rw [sampleEntries, ih, List.map_cons]

theorem keys_sampleEntries (es : List (String × Shape)) :
    (sampleEntries t more es).map (·.1) = es.map (·.1) := by
  rw [sampleEntries_eq_map, List.map_map]
  rfl

/-- A section of the sample begins with the samples of its entries. -/
theorem exists_sample_eq_bundle {s : Shape} (h : s.kind = .bundle) : ∃ rest,
    s.sample t more = .bundle (s.entries.map (fun e => (e.1, e.2.sample t more)) ++ rest) := by
  cases s with
  | fields es => exact ⟨[], by rw [sample, sampleEntries_eq_map, List.append_nil]; rfl⟩
  | messages => exact ⟨more, by rw [sample, entries, List.map_map]; rfl⟩
  | _ => cases h

theorem child?_sample {s : Shape} (hs : s.wellMade = true) {e : String × Shape} (he : e ∈ s.entries) :
    (s.sample t more).child? e.1 = some (e.2.sample t more) := by
  obtain ⟨rest, hrest⟩ := @exists_sample_eq_bundle t more s (kind_eq_bundle_of_mem_entries he)
  have hu : ((s.entries.map fun e => (e.1, e.2.sample t more)).map (·.1)).Nodup := by
    rw [List.map_map]
    exact nodup_entries hs
  obtain ⟨f, hf, hv⟩ := Option.map_eq_some_iff.1
    (find?_key_of_mem hu (List.mem_map_of_mem (f := fun e => (e.1, e.2.sample t more)) he))
  refine Value.child?_eq_some_iff.2 ⟨_, hrest, ?_⟩
  rw [Bundle.child?, List.find?_append, hf, Option.some_or, Option.map_some, hv]

theorem under?_sample {s r : Shape} {keys : List String} (hp : Place s keys r)
    (hs : s.wellMade = true) : (s.sample t more).under? keys = some (r.sample t more) := by
  induction hp with
  | here s => rfl
  | under hm hp ih =>
    rw [Value.under?_cons, child?_sample t hs hm, Option.bind_some, ih (wellMade_of_mem hs hm).2]

theorem accepts_sample {s : Shape} (hs : s.wellMade = true)
    (hm : ∀ e ∈ more, ∃ c, MessageCode.read? e.1 = some c) : s.Accepts (s.sample t more) := by
  induction s with
  | text => exact accepts_text_iff.2 rfl
  | list n => exact accepts_list_iff.2 ⟨rfl, List.length_replicate⟩
  | choices => exact accepts_choices_iff.2 rfl
  | fields es ih =>
    refine accepts_iff.2 ⟨⟨rfl, fun _ e => Shape.noConfusion e, fun k hk => ?_⟩,
      fun e he => ⟨_, child?_sample t hs he, ?_⟩⟩
    · rwa [sample, Value.entries, keys_sampleEntries] at hk
    · exact ih e he (wellMade_of_mem hs he).2
  | messages =>
    refine accepts_iff.2 ⟨⟨rfl, fun _ e => Shape.noConfusion e, fun k hk => ?_⟩,
      fun e he => ⟨_, child?_sample t hs he, ?_⟩⟩
    · obtain ⟨e, he, rfl⟩ := List.mem_map.1 hk
      rcases List.mem_append.1 he with he | he
      · obtain ⟨c, -, rfl⟩ := List.mem_map.1 he
        exact ⟨c, MessageCode.read?_key c⟩
      · exact hm e he
    · obtain ⟨c, -, rfl⟩ := List.mem_map.1 he
      exact accepts_text_iff.2 rfl

theorem readable_sample {s : Shape} (hs : s.wellMade = true)
    (hu : (MessageCode.all.map MessageCode.key ++ more.map (·.1)).Nodup)
    (hm : ∀ e ∈ more, e.2.Readable) : (s.sample t more).Readable := by
  induction s with
  | text => exact ⟨trivial, by simp [sample]⟩
  | list n => exact ⟨trivial, by simp [sample]⟩
  | choices => exact ⟨trivial, by simp [sample]⟩
  | fields es ih =>
    refine Value.readable_bundle_iff.2 ⟨?_, ?_⟩
    · rw [keys_sampleEntries]
      exact nodup_entries (s := fields es) hs
    · rw [sampleEntries_eq_map, List.forall_mem_map]
      exact fun e he => ih e he (wellMade_of_mem (s := fields es) hs he).2
  | messages =>
    refine Value.readable_bundle_iff.2 ⟨?_, ?_⟩
    · rw [List.map_append, List.map_map]
      exact hu
    · rw [List.forall_mem_append, List.forall_mem_map]
      exact ⟨fun c _ => ⟨trivial, by simp⟩, hm⟩

end Sample

end Shape

/-! ## Bundles -/

namespace Bundle

/-- The value that keys lead to from the root. -/
def under? (b : Bundle) (keys : List String) : Option Value := (Value.bundle b.entries).under? keys

theorem shapeErrors_eq_nil_iff {b : Bundle} :
    b.shapeErrors = [] ↔ Shape.whole.Accepts (.bundle b.entries) := by
  rw [shapeErrors, List.append_eq_nil_iff,
    Shape.checkFields_eq_nil_iff fun _ _ _ _ => Shape.check_eq_nil_iff, Shape.unexpected_eq_nil_iff,
    Shape.accepts_bundle_iff rfl]
  simp [Shape.Allows, Shape.entries, Shape.whole]

/-- The bundle has the keys of the table: at each section of the table it holds a section with exactly
the keys that are listed for it, and each value there is of the kind, and if a list of the size, that the
table asks for. -/
def HasShape (b : Bundle) : Prop :=
  ∀ keys t, Shape.Place .whole keys t → t.kind = .bundle →
    ∃ es, b.under? keys = some (.bundle es) ∧
      (∃ ks, Shape.sectionKeys? (".".intercalate keys) = some ks ∧ ∀ k, k ∈ es.map (·.1) ↔ k ∈ ks) ∧
      ∀ e ∈ es, ∀ s, (e.1, s) ∈ t.entries → e.2.kind = s.kind ∧ ∀ n, s = .list n → e.2.places = n

variable {b : Bundle}

theorem HasShape.section_keys (h : b.HasShape) {keys : List String} {t : Shape}
    (hp : Shape.Place .whole keys t) (ht : t.kind = .bundle) :
    ∃ es, b.under? keys = some (.bundle es) ∧ (∀ k, k ∈ es.map (·.1) ↔ k ∈ t.entries.map (·.1)) ∧
      ∀ e ∈ es, ∀ s, (e.1, s) ∈ t.entries → e.2.kind = s.kind ∧ ∀ n, s = .list n → e.2.places = n := by
  obtain ⟨es, hes, ⟨ks, hks, hkeys⟩, hkinds⟩ := h keys t hp ht
  cases hks.symm.trans (Shape.sectionKeys?_dotted hp ht)
  exact ⟨es, hes, hkeys, hkinds⟩

theorem HasShape.value (h : b.HasShape) {keys : List String} {t : Shape}
    (hp : Shape.Place .whole keys t) :
    ∃ u, b.under? keys = some u ∧ u.kind = t.kind ∧ ∀ n, t = .list n → u.places = n := by
  rcases List.eq_nil_or_concat keys with rfl | ⟨front, k, rfl⟩
  · cases Shape.place_nil_iff.1 hp
    exact ⟨_, rfl, rfl, nofun⟩
  · rw [List.concat_eq_append] at hp ⊢
    obtain ⟨r, hr, hm⟩ := Shape.place_concat_iff.1 hp
    obtain ⟨es, hes, hkeys, hkinds⟩ := h.section_keys hr (Shape.kind_eq_bundle_of_mem_entries hm)
    obtain ⟨w, hw, hmem⟩ := Value.exists_child?_of_mem ((hkeys k).2 (List.mem_map_of_mem hm))
    refine ⟨w, ?_, hkinds _ hmem t hm⟩
    rw [under?] at hes ⊢
    rw [Value.under?_concat, hes, Option.bind_some, hw]

theorem HasShape.accepts (h : b.HasShape) : Shape.whole.Accepts (.bundle b.entries) := by
  intro keys t hp
  obtain ⟨u, hu, hk, hn⟩ := h.value hp
  refine ⟨u, hu, hk, hn, fun k hm => ?_⟩
  cases u with
  | bundle es =>
    obtain ⟨es', hes', hkeys, -⟩ := h.section_keys hp hk.symm
    cases hu.symm.trans hes'
    exact Shape.allows_of_mem_keys ((hkeys k).1 hm)
  | _ => cases hm

/-- Where no key among the message texts is another spelling of a code, a bundle has the shape exactly
when nothing is reported of it. -/
theorem hasShape_iff (hu : b.KeysUnique) :
    b.HasShape ↔ b.shapeErrors = [] ∧
      ∀ keys es, Shape.Place .whole keys .messages → b.under? keys = some (.bundle es) →
        ∀ k ∈ es.map (·.1), ∀ c, MessageCode.read? k = some c → k = c.key := by
  rw [shapeErrors_eq_nil_iff]
  constructor
  · intro h
    refine ⟨h.accepts, fun keys es hp hes k hk c hc => ?_⟩
    obtain ⟨es', hes', hkeys, -⟩ := h.section_keys hp rfl
    cases hes.symm.trans hes'
    have hcode := (hkeys k).1 hk
    rw [Shape.keys_messages] at hcode
    obtain ⟨c', -, rfl⟩ := List.mem_map.1 hcode
    cases hc.symm.trans (MessageCode.read?_key c')
    rfl
  · rintro ⟨h, hspelled⟩ keys t hp ht
    obtain ⟨u, hes, ha⟩ := h.under? hp
    obtain ⟨es, rfl⟩ := Shape.exists_bundle_of_kind ha ht
    obtain ⟨hchildren, hallow⟩ := (Shape.accepts_bundle_iff ht).1 ha
    have hnodup := Value.keysUnique_iff.1 hu _ (Value.within_of_under?_eq_some hes)
    refine ⟨es, hes, ⟨_, Shape.sectionKeys?_dotted hp ht, fun k => ⟨fun hk => ?_, fun hk => ?_⟩⟩,
      fun e he s hs => ?_⟩
    -- a known key is a key of the table, unless it spells a code in another way
    · cases t with
      | fields entries => exact hallow k hk
      | messages =>
        obtain ⟨c, hc⟩ := hallow k hk
        rw [Shape.keys_messages, hspelled keys es hp hes k hk c hc]
        exact List.mem_map_of_mem (MessageCode.mem_all c)
      | _ => cases ht
    · obtain ⟨e, he, rfl⟩ := List.mem_map.1 hk
      obtain ⟨w, hw, -⟩ := hchildren e he
      exact List.mem_map_of_mem (mem_of_child?_eq_some hw)
    · obtain ⟨w, hw, hacc⟩ := hchildren (e.1, s) hs
      cases hw.symm.trans (child?_of_mem hnodup he)
      exact ⟨(Shape.accepts_iff.1 hacc).1.kind, (Shape.accepts_iff.1 hacc).1.size⟩

/-! ## Respelled codes -/

/-- A bundle that says `t` everywhere, with `more` behind its message texts. -/
def sample (t : String) (more : List (String × Value)) : Bundle :=
  ⟨Shape.sampleEntries t more Shape.root⟩

theorem under?_sample (t : String) (more : List (String × Value)) {keys : List String} {r : Shape}
    (hp : Shape.Place .whole keys r) : (sample t more).under? keys = some (r.sample t more) :=
  Shape.under?_sample t hp Shape.wellMade_whole

theorem readable_sample (t : String) : (Value.bundle (sample t []).entries).Readable :=
  Shape.readable_sample t Shape.wellMade_whole (by decide) nofun

theorem shapeErrors_sample (t : String) : (sample t []).shapeErrors = [] :=
  shapeErrors_eq_nil_iff.2 (Shape.accepts_sample t Shape.wellMade_whole nofun)

theorem hasShape_sample : (sample "OK" []).KeysUnique ∧ (sample "OK" []).HasShape := by
  have hu := (readable_sample "OK").keysUnique
  refine ⟨hu, (hasShape_iff hu).2 ⟨shapeErrors_sample "OK", fun keys es hp hes k hk c hc => ?_⟩⟩
  cases hes.symm.trans (under?_sample "OK" [] hp)
  rw [List.append_nil, List.map_map] at hk
  obtain ⟨c', -, rfl⟩ := List.mem_map.1 hk
  cases hc.symm.trans (MessageCode.read?_key c')
  rfl

/-- A list of texts under `0200`, beside the text of the code 200, is not reported. -/
theorem shapeErrors_respelled : ∃ b : Bundle, b.KeysUnique ∧ b.shapeErrors = [] ∧ ¬ b.HasShape := by
  let more : List (String × Value) := [("0200", .list [])]
  have hread : ∀ e ∈ more, ∃ c, MessageCode.read? e.1 = some c :=
    List.forall_mem_singleton.2 ⟨.planOk, by decide⟩
  have hmore : ∀ e ∈ more, e.2.Readable := List.forall_mem_singleton.2 ⟨trivial, by simp⟩
  refine ⟨sample "" more, (Shape.readable_sample "" Shape.wellMade_whole (by decide) hmore).keysUnique,
    shapeErrors_eq_nil_iff.2 (Shape.accepts_sample "" Shape.wellMade_whole hread), fun h => ?_⟩
  obtain ⟨es, hes, hkeys, -⟩ := h.section_keys Shape.place_messages rfl
  cases hes.symm.trans (under?_sample "" more Shape.place_messages)
  have hk := (hkeys "0200").1 (by simp [more])
  rw [Shape.keys_messages] at hk
  revert hk
  decide

end Bundle

end TripLocale
