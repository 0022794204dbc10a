/-
Flattening and lookup are two views of one tree. `Value.leaves` lists the texts of a value with the
segments that lead to them; flattening renders these segments (`flatten_eq_underKeys`), and lookup
follows them (`reach_of_mem_leaves`, `mem_leaves_of_reach`).

With a plain separator and plain keys the rendered segments parse back, so a flat key looks up its text,
flat keys are distinct, and every text that a path leads to is listed under a key of the same segments.
-/
import Mathlib.Data.List.Nodup
import TripLocale.Bundle.Flatten
import TripLocale.Proofs.Bundle.Reach
import TripLocale.Proofs.KeyPath.Plain
import TripLocale.Proofs.Outcome

namespace TripLocale

/-! ## Leaves -/

/-- Texts with the segments that lead to them. -/
abbrev Leaves := List (List Segment × String)

/-- The segment of a position. -/
def Segment.position (i : Nat) : Segment := .index (toString i)

/-- The leaves of a place whose parts stand behind the given segments. -/
def graft (parts : List (Segment × Leaves)) : Leaves :=
  parts.flatMap fun p => p.2.map fun l => (p.1 :: l.1, l.2)

theorem mem_graft_iff {parts : List (Segment × Leaves)} {l : List Segment × String} :
    l ∈ graft parts ↔ ∃ p ∈ parts, ∃ m ∈ p.2, l = (p.1 :: m.1, m.2) := by
  simp only [graft, List.mem_flatMap, List.mem_map, eq_comm]

theorem map_graft {β : Type} (f : List Segment × String → β) (parts : List (Segment × Leaves)) :
    (graft parts).map f = parts.flatMap fun p => p.2.map fun l => f (p.1 :: l.1, l.2) := by
  simp only [graft, List.map_flatMap, List.map_map]
  rfl

/-- Parts behind distinct segments have distinct leaves. -/
theorem nodup_graft {parts : List (Segment × Leaves)} (hs : (parts.map (·.1)).Nodup)
    (hp : ∀ p ∈ parts, (p.2.map (·.1)).Nodup) : ((graft parts).map (·.1)).Nodup := by
  rw [map_graft, List.nodup_flatMap]
  constructor
  · intro p hm
    have : (p.2.map (·.1)).map (p.1 :: ·) = p.2.map fun l => p.1 :: l.1 := List.map_map ..
    rw [← this]
    exact (hp p hm).map fun a b h => (List.cons.inj h).2
  · rw [List.Nodup, List.pairwise_map] at hs
    refine hs.imp fun {p q} hpq => ?_
    rw [Function.onFun_apply, List.disjoint_left]
    intro x hx hy
    obtain ⟨l, -, rfl⟩ := List.mem_map.1 hx
    obtain ⟨m, -, hm⟩ := List.mem_map.1 hy
    exact hpq (List.cons.inj hm).1.symm

/-- The parts of a list, each behind its position. -/
def itemParts {α : Type} (f : α → Leaves) (xs : List α) : List (Segment × Leaves) :=
  xs.zipIdx.map fun e => (.position e.2, f e.1)

theorem mem_itemParts_iff {α : Type} {f : α → Leaves} {xs : List α} {p : Segment × Leaves} :
    p ∈ itemParts f xs ↔ ∃ (i : Nat) (x : α), xs[i]? = some x ∧ p = (.position i, f x) := by
  simp only [itemParts, List.mem_map, Prod.exists, List.mem_zipIdx_iff_getElem?, eq_comm]
  exact exists_comm

theorem nodup_itemParts {α : Type} (f : α → Leaves) (xs : List α) :
    ((itemParts f xs).map (·.1)).Nodup := by
  have hi : (xs.zipIdx.map (·.2)).Nodup := by
    rw [List.zipIdx_map_snd]
    exact List.nodup_range'
  have he : (itemParts f xs).map (·.1) = (xs.zipIdx.map (·.2)).map Segment.position := by
    simp only [itemParts, List.map_map]
    rfl
  rw [he]
  exact hi.map fun a b h => Text.toString_inj (Segment.index.inj h)

/-- The only leaf of a text. -/
def textLeaves (t : String) : Leaves := [([], t)]

/-- The fields of a choice. -/
def Choice.leaves (c : Choice) : Leaves :=
  graft [(.position 0, textLeaves c.value), (.position 1, textLeaves c.label)]

namespace Value

mutual

/-- The texts of a value, each with the segments that lead to it. -/
def leaves : Value → Leaves
  | .text t => textLeaves t
  | .list items => graft (itemParts textLeaves items)
  | .choices cs => graft (itemParts Choice.leaves cs)
  | .bundle es => graft (entryParts es)

/-- The values of entries, each behind its key. -/
def entryParts : List (String × Value) → List (Segment × Leaves)
  | [] => []
  | (k, v) :: es => (.key k, leaves v) :: entryParts es

end

theorem entryParts_eq_map (es : List (String × Value)) :
    entryParts es = es.map fun e => (.key e.1, e.2.leaves) := by
  induction es with
  | nil => rfl
  | cons e es ih => rw [entryParts, ih, List.map_cons]

theorem nodup_entryParts {es : List (String × Value)} (h : (es.map (·.1)).Nodup) :
    ((entryParts es).map (·.1)).Nodup := by
  have hkeys : (entryParts es).map (·.1) = (es.map (·.1)).map Segment.key := by
    simp only [entryParts_eq_map, List.map_map]
    rfl
  rw [hkeys]
  exact h.map fun a b hab => Segment.key.inj hab

theorem nodup_choice_leaves (c : Choice) : (c.leaves.map (·.1)).Nodup := by
  refine nodup_graft ?_ ?_
  · have h01 : Segment.position 0 ≠ Segment.position 1 := by decide
    simp [h01]
  · simp [textLeaves]

/-- With unique keys no two texts have the same segments. -/
theorem nodup_leaves {v : Value} (hu : v.KeysUnique) : (v.leaves.map (·.1)).Nodup := by
  induction v with
  | text t => simp [leaves, textLeaves]
  | list items =>
    refine nodup_graft (nodup_itemParts _ _) fun p hp => ?_
    obtain ⟨i, t, -, rfl⟩ := mem_itemParts_iff.1 hp
    simp [textLeaves]
  | choices cs =>
    refine nodup_graft (nodup_itemParts _ _) fun p hp => ?_
    obtain ⟨i, c, -, rfl⟩ := mem_itemParts_iff.1 hp
    exact nodup_choice_leaves c
  | bundle es ih =>
    obtain ⟨hk, hes⟩ := keysUnique_bundle_iff.1 hu
    refine nodup_graft (nodup_entryParts hk) fun p hp => ?_
    rw [entryParts_eq_map] at hp
    obtain ⟨e, he, rfl⟩ := List.mem_map.1 hp
    exact ih e he (hes e he)

end Value

/-! ## Flattening -/

section Flatten

variable {separator : String}

/-- The text of segments, as a lookup renders it. -/
def flatKey (separator : String) (segments : List Segment) : String :=
  KeyPath.render ⟨segments⟩ separator

theorem flatKey_concat (segments : List Segment) (s : Segment) :
    flatKey separator (segments ++ [s]) = s.appendTo (flatKey separator segments) separator :=
  List.foldl_append

theorem flatKey_position (segments : List Segment) (i : Nat) :
    flatKey separator (segments ++ [.position i]) = indexedKey (flatKey separator segments) i := by
  rw [flatKey_concat]
  rfl

theorem flatKey_key {segments : List Segment} (h : flatKey separator segments ≠ "") (k : String) :
    flatKey separator (segments ++ [.key k]) = flatKey separator segments ++ separator ++ k := by
  rw [flatKey_concat, Segment.appendTo, String.isEmpty_eq_false_iff.2 h]
  rfl

/-- Leaves under their flat keys, behind the segments of the place they belong to. -/
def underKeys (separator : String) (segments : List Segment) (ls : Leaves) : List (String × String) :=
  ls.map fun l => (flatKey separator (segments ++ l.1), l.2)

theorem underKeys_graft (segments : List Segment) (parts : List (Segment × Leaves)) :
    underKeys separator segments (graft parts) =
      parts.flatMap fun p => underKeys separator (segments ++ [p.1]) p.2 := by
  simp only [underKeys, map_graft, List.append_assoc, List.singleton_append]

theorem underKeys_itemParts {α : Type} (f : α → Leaves) (xs : List α) (segments : List Segment) :
    underKeys separator segments (graft (itemParts f xs)) =
      (xs.mapIdx fun i x => underKeys separator (segments ++ [.position i]) (f x)).flatten := by
  rw [underKeys_graft, itemParts, List.flatMap_map, List.mapIdx_eq_zipIdx_map, List.flatMap_def]

theorem underKeys_textLeaves (segments : List Segment) (t : String) :
    underKeys separator segments (textLeaves t) = [(flatKey separator segments, t)] := by
  simp [underKeys, textLeaves]

theorem Choice.flatten_eq_underKeys (c : Choice) (segments : List Segment) :
    c.flatten (flatKey separator segments) = underKeys separator segments c.leaves := by
  simp only [Choice.flatten, Choice.leaves, underKeys_graft, ← flatKey_position, List.flatMap_cons,
    List.flatMap_nil, underKeys_textLeaves, List.singleton_append]

namespace Value

theorem flattenEntries_eq_flatMap (full : String → String) (es : List (String × Value)) :
    flattenEntries separator full es = es.flatMap fun e => e.2.flatten separator (full e.1) := by
  induction es with
  | nil => rfl
  | cons e es ih => rw [flattenEntries, ih, List.flatMap_cons]

/-- The flat keys of a value render the segments of its leaves behind those of the value. -/
theorem flatten_eq_underKeys {v : Value} (hv : v.Everywhere fun u => ∀ e ∈ u.entries, e.1 ≠ "")
    {segments : List Segment} (hs : flatKey separator segments ≠ "") :
    v.flatten separator (flatKey separator segments) = underKeys separator segments v.leaves := by
  induction v generalizing segments with
  | text t => simp [flatten, leaves, underKeys, textLeaves]
  | list items =>
    rw [leaves, underKeys_itemParts, flatten]
    simp only [← flatKey_position, underKeys_textLeaves, List.mapIdx_eq_zipIdx_map]
    rw [← List.flatMap_def, List.map_eq_flatMap]
  | choices cs =>
    rw [leaves, underKeys_itemParts, flatten]
    simp only [← flatKey_position, Choice.flatten_eq_underKeys]
  | bundle es ih =>
    obtain ⟨hk, hes⟩ := everywhere_bundle_iff.1 hv
    rw [flatten, leaves, flattenEntries_eq_flatMap, entryParts_eq_map, underKeys_graft, List.flatMap_map]
    refine List.flatMap_congr fun e he => ?_
    -- the separator stands behind every text but the empty one
    have hne : flatKey separator (segments ++ [.key e.1]) ≠ "" := by
      rw [flatKey_key hs]
      simp [hk e he]
    rw [← flatKey_key hs, ih e he (hes e he) hne]

end Value

theorem Bundle.flatten_eq_underKeys {b : Bundle} (hb : b.Everywhere fun u => ∀ e ∈ u.entries, e.1 ≠ "") :
    b.flatten separator = underKeys separator [] (Value.bundle b.entries).leaves := by
  obtain ⟨hk, hes⟩ := Value.everywhere_bundle_iff.1 hb
  rw [Bundle.flatten, Value.leaves, Value.flattenEntries_eq_flatMap, Value.entryParts_eq_map,
    underKeys_graft, List.flatMap_map]
  refine List.flatMap_congr fun e he => ?_
  have hkey : flatKey separator [.key e.1] = e.1 := by simp [flatKey, KeyPath.render, Segment.appendTo]
  have hne : flatKey separator [.key e.1] ≠ "" := by rw [hkey]; exact hk e he
  have := Value.flatten_eq_underKeys (hes e he) hne
  rwa [hkey] at this

end Flatten

/-! ## Leaves of places -/

theorem Choice.field?_eq_some_iff {c : Choice} {i : Nat} {t : String} :
    c.field? i = some t ↔ (i = 0 ∧ t = c.value) ∨ (i = 1 ∧ t = c.label) := by
  match i with
  | 0 | 1 => simp [Choice.field?, eq_comm]
  | i + 2 => simp [Choice.field?]

theorem KeyPath.plainSegment_position {separator : String} (i : Nat) :
    KeyPath.PlainSegment separator (.position i) := KeyPath.isDigits_iff.1 (KeyPath.isDigits_toString i)

namespace Target

/-- The texts that a place holds, each with the segments that lead to it. -/
def leaves : Target → Leaves
  | value v => v.leaves
  | choice c => c.leaves
  | text t => textLeaves t

/-- `Part r s u`: `u` is the part of `r` behind the segment `s`, an entry of a section or what stands at a
numbered place. -/
inductive Part : Target → Segment → Target → Prop
  | entry {es : List (String × Value)} {k : String} {v : Value} :
      (k, v) ∈ es → Part (value (.bundle es)) (.key k) (value v)
  | item {r u : Target} {i : Nat} : r.item? i = some u → Part r (.position i) u

/-- The leaves of a place, part by part. A text has no parts. -/
def parts : Target → List (Segment × Leaves)
  | value (.bundle es) => Value.entryParts es
  | value (.list items) => itemParts textLeaves items
  | value (.choices cs) => itemParts Choice.leaves cs
  | choice c => [(.position 0, textLeaves c.value), (.position 1, textLeaves c.label)]
  | value (.text _) | text _ => []

section Parts

variable {r u : Target} {s : Segment} {segments : List Segment} {t : String}

theorem mem_parts_iff {p : Segment × Leaves} : p ∈ r.parts ↔ ∃ s u, Part r s u ∧ p = (s, u.leaves) := by
  constructor
  · intro h
    match r, h with
    | value (.bundle es), h =>
      rw [parts, Value.entryParts_eq_map] at h
      obtain ⟨e, he, rfl⟩ := List.mem_map.1 h
      exact ⟨.key e.1, value e.2, .entry he, rfl⟩
    | value (.list items), h =>
      obtain ⟨i, x, hx, rfl⟩ := mem_itemParts_iff.1 h
      exact ⟨.position i, text x, .item (congrArg (Option.map text) hx), rfl⟩
    | value (.choices cs), h =>
      obtain ⟨i, c, hc, rfl⟩ := mem_itemParts_iff.1 h
      exact ⟨.position i, choice c, .item (congrArg (Option.map choice) hc), rfl⟩
    | choice c, h =>
      rcases List.mem_pair.1 h with rfl | rfl
      · exact ⟨.position 0, text c.value, .item rfl, rfl⟩
      · exact ⟨.position 1, text c.label, .item rfl, rfl⟩
  · rintro ⟨s, u, hp, rfl⟩
    cases hp with
    | @entry es k v he =>
      rw [parts, Value.entryParts_eq_map]
      exact List.mem_map_of_mem (f := fun e : String × Value => (Segment.key e.1, e.2.leaves)) he
    | @item _ _ i hi =>
      match r, hi with
      | value (.list items), hi =>
        obtain ⟨x, hx, rfl⟩ := Option.map_eq_some_iff.1 hi
        exact mem_itemParts_iff.2 ⟨i, x, hx, rfl⟩
      | value (.choices cs), hi =>
        obtain ⟨c, hc, rfl⟩ := Option.map_eq_some_iff.1 hi
        exact mem_itemParts_iff.2 ⟨i, c, hc, rfl⟩
      | choice c, hi =>
        obtain ⟨x, hx, rfl⟩ := Option.map_eq_some_iff.1 hi
        rcases Choice.field?_eq_some_iff.1 hx with ⟨rfl, rfl⟩ | ⟨rfl, rfl⟩ <;> simp [parts, leaves]

theorem leaves_of_text? (h : r.text? = some t) : r.leaves = textLeaves t := by
  match r, h with
  | value (.text _), rfl | text _, rfl => rfl

theorem parts_of_text? (h : r.text? = some t) : r.parts = [] := by
  match r, h with
  | value (.text _), rfl | text _, rfl => rfl

theorem leaves_eq_graft (h : r.text? = none) : r.leaves = graft r.parts := by
  match r, h with
  | value (.bundle _), _ | value (.list _), _ | value (.choices _), _ | choice _, _ => rfl

theorem Part.text?_eq_none (h : Part r s u) : r.text? = none := by
  by_contra hne
  obtain ⟨t, ht⟩ := Option.ne_none_iff_exists'.1 hne
  have : (s, u.leaves) ∈ r.parts := mem_parts_iff.2 ⟨s, u, h, rfl⟩
  rw [parts_of_text? ht] at this
  cases this

/-- A place is a leaf of its own only if it is a text. -/
theorem nil_mem_leaves_iff : ([], t) ∈ r.leaves ↔ r.text? = some t := by
  cases hr : r.text? with
  | some x => simp [leaves_of_text? hr, textLeaves, eq_comm]
  | none => simp [leaves_eq_graft hr, mem_graft_iff]

/-- All other leaves are those of its parts. -/
theorem cons_mem_leaves_iff : (s :: segments, t) ∈ r.leaves ↔ ∃ u, Part r s u ∧ (segments, t) ∈ u.leaves := by
  constructor
  · intro h
    cases hr : r.text? with
    | some x => simp [leaves_of_text? hr, textLeaves] at h
    | none =>
      rw [leaves_eq_graft hr, mem_graft_iff] at h
      obtain ⟨p, hp, m, hm, e⟩ := h
      obtain ⟨s, u, hpart, rfl⟩ := mem_parts_iff.1 hp
      cases e
      exact ⟨u, hpart, hm⟩
  · rintro ⟨u, hp, hm⟩
    rw [leaves_eq_graft hp.text?_eq_none, mem_graft_iff]
    exact ⟨_, mem_parts_iff.2 ⟨s, u, hp, rfl⟩, _, hm, rfl⟩

/-- What holds everywhere in a place holds everywhere in its parts. -/
theorem Part.everywhere {P : Value → Prop} (h : Part r s u) (hr : r.Everywhere P) : u.Everywhere P := by
  cases h with
  | entry he => exact (Value.everywhere_bundle_iff.1 hr).2 _ he
  | item hi => exact .of_item? hi

theorem Part.plain {separator : String} (h : Part r s u)
    (hr : r.Everywhere fun v => ∀ e ∈ v.entries, KeyPath.PlainKey separator e.1) :
    KeyPath.PlainSegment separator s := by
  cases h with
  | entry he => exact hr.here _ he
  | item hi => exact KeyPath.plainSegment_position _

/-- Segments of leaves are plain when all keys are. -/
theorem plain_of_mem_leaves {separator : String}
    (hp : r.Everywhere fun v => ∀ e ∈ v.entries, KeyPath.PlainKey separator e.1)
    (h : (segments, t) ∈ r.leaves) : ∀ s ∈ segments, KeyPath.PlainSegment separator s := by
  induction segments generalizing r with
  | nil => nofun
  | cons s segments ih =>
    obtain ⟨u, hpart, hm⟩ := cons_mem_leaves_iff.1 h
    rw [List.forall_mem_cons]
    exact ⟨hpart.plain hp, ih (hpart.everywhere hp) hm⟩

/-! ## Lookup along leaves -/

/-- With unique keys the segment of a part is a step to it. -/
theorem Part.step_eq_ok (h : Part r s u) (hu : r.Everywhere fun v => (v.entries.map (·.1)).Nodup)
    (hf : r.Everywhere fun v => v.places < Nat.pow 2 64) : r.step s = .ok u := by
  cases h with
  | @entry es k v he => exact step_eq_ok_iff.2 (.inl ⟨es, v, rfl, Bundle.child?_of_mem hu.here he, rfl⟩)
  | @item _ _ i hi =>
    obtain ⟨n, hn⟩ := exists_size?_of_item? hi
    have hin : i < n := (isSome_item?_iff hn).1 (by rw [hi]; rfl)
    have hpos : (Segment.position i).index? = some i :=
      Segment.index?_eq_some_iff.2 ⟨Nat.lt_trans hin (size?_lt hf hn), rfl⟩
    exact step_eq_ok_iff.2 (.inr ⟨n, i, hn, hpos, hi⟩)

/-- A step leads to a part, whose segment has the text of the step. -/
theorem exists_part_of_step (h : r.step s = .ok u) : ∃ s' : Segment, s'.text = s.text ∧ Part r s' u := by
  rcases step_eq_ok_iff.1 h with ⟨es, v, rfl, hv, rfl⟩ | ⟨n, i, hn, hi, hu⟩
  · exact ⟨.key s.text, rfl, .entry (Bundle.mem_of_child?_eq_some hv)⟩
  · exact ⟨.position i, (Segment.index?_eq_some_iff.1 hi).2.symm, .item hu⟩

theorem reach_of_mem_leaves (hu : r.Everywhere fun v => (v.entries.map (·.1)).Nodup)
    (hf : r.Everywhere fun v => v.places < Nat.pow 2 64) (h : (segments, t) ∈ r.leaves) :
    ∃ u, r.reach segments = .ok u ∧ u.text? = some t := by
  induction segments generalizing r with
  | nil => exact ⟨r, rfl, nil_mem_leaves_iff.1 h⟩
  | cons s segments ih =>
    obtain ⟨u, hpart, hm⟩ := cons_mem_leaves_iff.1 h
    rw [reach_cons, hpart.step_eq_ok hu hf]
    exact ih (hpart.everywhere hu) (hpart.everywhere hf) hm

theorem mem_leaves_of_reach (h : r.reach segments = .ok u) (ht : u.text? = some t) :
    ∃ segments', (segments', t) ∈ r.leaves ∧ segments'.map Segment.text = segments.map Segment.text := by
  induction segments generalizing r with
  | nil =>
    cases h
    exact ⟨[], nil_mem_leaves_iff.2 ht, rfl⟩
  | cons s segments ih =>
    rw [reach_cons] at h
    obtain ⟨v, hs, hv⟩ := bind_eq_ok_iff.1 h
    obtain ⟨rest, hm, hrest⟩ := ih hv
    obtain ⟨s', hs', hpart⟩ := exists_part_of_step hs
    exact ⟨s' :: rest, cons_mem_leaves_iff.2 ⟨v, hpart, hm⟩, by rw [List.map_cons, List.map_cons, hs', hrest]⟩

end Parts

end Target

/-! ## Flattening and lookup -/

/-- Plain segments are read back from their text. -/
theorem KeyPath.parse_flatKey {separator : String} (hs : PlainSeparator separator) {segments : List Segment}
    (hne : segments ≠ []) (h : ∀ s ∈ segments, PlainSegment separator s) :
    parse (flatKey separator segments) separator = .ok ⟨segments⟩ :=
  parse_eq_ok_iff.2 ⟨writable_of_plain hs hne h, rfl⟩

namespace Bundle

variable {separator : String} {b : Bundle}

/-- Every key in the bundle is plain with the separator. -/
def KeysPlain (separator : String) (b : Bundle) : Prop :=
  b.Everywhere fun v => ∀ e ∈ v.entries, KeyPath.PlainKey separator e.1

theorem root_leaves_ne_nil {l : List Segment × String} (h : l ∈ b.root.leaves) : l.1 ≠ [] := by
  obtain ⟨segments, t⟩ := l
  rintro rfl
  cases Target.nil_mem_leaves_iff.1 h

theorem KeysPlain.flatten_eq_underKeys (hp : b.KeysPlain separator) :
    b.flatten separator = underKeys separator [] b.root.leaves :=
  Bundle.flatten_eq_underKeys fun v hv e he => (hp v hv e he).ne_empty

theorem KeysPlain.mem_flatten_iff (hp : b.KeysPlain separator) {key t : String} :
    (key, t) ∈ b.flatten separator ↔
      ∃ segments, (segments, t) ∈ b.root.leaves ∧ key = flatKey separator segments := by
  rw [hp.flatten_eq_underKeys, underKeys, List.mem_map]
  constructor
  · rintro ⟨⟨segments, t'⟩, hm, e⟩
    cases e
    exact ⟨segments, hm, rfl⟩
  · rintro ⟨segments, hm, rfl⟩
    exact ⟨(segments, t), hm, rfl⟩

theorem KeysPlain.parse_flatKey (hs : KeyPath.PlainSeparator separator) (hp : b.KeysPlain separator)
    {segments : List Segment} {t : String} (h : (segments, t) ∈ b.root.leaves) :
    KeyPath.parse (flatKey separator segments) separator = .ok ⟨segments⟩ :=
  KeyPath.parse_flatKey hs (root_leaves_ne_nil h) (Target.plain_of_mem_leaves (r := b.root) hp h)

theorem KeysPlain.nodup_flatten (hs : KeyPath.PlainSeparator separator) (hp : b.KeysPlain separator)
    (hu : b.KeysUnique) : ((b.flatten separator).map (·.1)).Nodup := by
  have hkeys : (b.flatten separator).map (·.1) =
      ((Value.bundle b.entries).leaves.map (·.1)).map (flatKey separator) := by
    rw [hp.flatten_eq_underKeys, underKeys, List.map_map, List.map_map]
    rfl
  rw [hkeys]
  refine (Value.nodup_leaves hu).map_on fun x hx y hy hxy => ?_
  obtain ⟨⟨_, t⟩, hl, rfl⟩ := List.mem_map.1 hx
  obtain ⟨⟨_, t'⟩, hl', rfl⟩ := List.mem_map.1 hy
  -- a full key parses to the segments it was rendered from
  have := hp.parse_flatKey hs hl
  rw [hxy, hp.parse_flatKey hs hl'] at this
  cases this
  rfl

/-- The full keys of flattening are those that a lookup finds texts at: each looks up its text, no two
are the same, and a path to a text has the segments of one of them. -/
theorem flatten_lookup (hs : KeyPath.PlainSeparator separator) (hp : b.KeysPlain separator)
    (hu : b.KeysUnique) (hf : b.ListsFit) :
    (∀ e ∈ b.flatten separator, ∃ r, b.lookup e.1 separator = .ok r ∧ r.text? = some e.2) ∧
    ((b.flatten separator).map (·.1)).Nodup ∧
    ∀ path r t, b.lookup path separator = .ok r → r.text? = some t →
      ∃ key p q, (key, t) ∈ b.flatten separator ∧ KeyPath.parse path separator = .ok p ∧
        KeyPath.parse key separator = .ok q ∧
        q.segments.map Segment.text = p.segments.map Segment.text := by
  refine ⟨?_, hp.nodup_flatten hs hu, ?_⟩
  · rintro ⟨key, t⟩ he
    obtain ⟨segments, hm, rfl⟩ := hp.mem_flatten_iff.1 he
    obtain ⟨r, hr, ht⟩ := Target.reach_of_mem_leaves hu.root hf hm
    exact ⟨r, lookup_eq_ok_iff.2 ⟨_, hp.parse_flatKey hs hm, hr⟩, ht⟩
  · intro path r t hr ht
    obtain ⟨p, hparse, hreach⟩ := lookup_eq_ok_iff.1 hr
    obtain ⟨segments, hm, htext⟩ := Target.mem_leaves_of_reach hreach ht
    exact ⟨flatKey separator segments, p, ⟨segments⟩, hp.mem_flatten_iff.2 ⟨segments, hm, rfl⟩, hparse,
      hp.parse_flatKey hs hm, htext⟩

/-- The keys of the small bundle are plain with every separator that tells them apart. -/
theorem planner_keysPlain (h : ∀ k ∈ ["time", "months", "mode", "ok"], KeyPath.PlainKey separator k) :
    planner.KeysPlain separator := by
  simp only [KeysPlain, Everywhere, planner, Value.everywhere_bundle_iff, Value.entries, List.forall_mem_cons]
  simp [h]

theorem flatten_lookup_month : KeyPath.PlainSeparator "." ∧ planner.KeysPlain "." ∧ planner.KeysUnique ∧
    planner.ListsFit ∧ ("time.months[1]", "Lut") ∈ planner.flatten "." ∧
    ∃ r, planner.lookup "time.months[1]" "." = .ok r ∧ r.text? = some "Lut" := by
  have hs : KeyPath.PlainSeparator "." := KeyPath.plainSeparator_dot
  have hp : planner.KeysPlain "." := planner_keysPlain (by decide)
  have hm : ("time.months[1]", "Lut") ∈ planner.flatten "." := by decide +kernel
  exact ⟨hs, hp, planner_keysUnique, planner_listsFit, hm,
    (flatten_lookup hs hp planner_keysUnique planner_listsFit).1 _ hm⟩

end Bundle

end TripLocale
