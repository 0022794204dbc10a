/-
The keys of a section by its path: `sectionKeys? path` answers exactly for the paths of the table's sections,
with their keys in order of the table, and for what follows the path of the message texts
(`sectionKeys?_eq_some_iff`). The message texts answer for any path that goes on from theirs with a dot, though
no section lies there (`not_forall_sectionKeys?_place`).

The walk over the table is followed key by key (`keysIn?_eq_some_iff`); a path is cut into keys at its dots, and
neither the keys of the table nor what follows them moves a cut (`pathKeys_dotted`, `pathKeys_below`).
-/
import TripLocale.Proofs.Shape.Place

namespace TripLocale.Shape

/-! ## Walking the table -/

/-- The keys of the section that keys lead to from a shape. -/
def keysIn? (s : Shape) (path : List String) : Option (List String) :=
  match s with
  | fields entries => keysBelow? entries path
  | messages => some (MessageCode.all.map MessageCode.key)
  | _ => none

theorem keysBelow?_cons (es : List (String × Shape)) (k : String) (path : List String) :
    keysBelow? es (k :: path) = (find? es k).bind (keysIn? · path) := by
  rw [keysBelow?]
  cases find? es k with
  | none => rfl
  | some s => cases s <;> rfl

/-- In a section that names each key once, the way on from a key is that of the shape found under it. -/
theorem place_fields_cons_iff {es : List (String × Shape)} (hu : (es.map (·.1)).Nodup) {k : String}
    {keys : List String} {t : Shape} :
    Place (fields es) (k :: keys) t ↔ ∃ s, find? es k = some s ∧ Place s keys t := by
  rw [place_cons_iff]
  constructor
  · rintro ⟨s, hm, h⟩
    exact ⟨s, find?_key_of_mem hu hm, h⟩
  · rintro ⟨s, hs, h⟩
    exact ⟨s, mem_of_find?_key hs, h⟩

/-- `Lists s path keys`: from `s`, the path leads to a section of fields with these keys, or it leads to the
message texts and on, and these are the codes. -/
def Lists (s : Shape) (path keys : List String) : Prop :=
  (∃ inner, Place s path (fields inner) ∧ keys = inner.map (·.1)) ∨
  ∃ chain more, path = chain ++ more ∧ Place s chain messages ∧ keys = MessageCode.all.map MessageCode.key

/-- What is no section lists nothing, and the walk ends there. -/
theorem keysIn?_leaf_iff {s : Shape} (hs : s.kind ≠ .bundle) {path keys : List String} :
    keysIn? s path = some keys ↔ Lists s path keys := by
  have hnil : s.entries = [] :=
    List.eq_nil_iff_forall_not_mem.2 fun e he => hs (kind_eq_bundle_of_mem_entries he)
  have hnot : ¬ Lists s path keys := by
    rintro (⟨inner, h, -⟩ | ⟨chain, more, -, h, -⟩)
    · exact hs (h.eq_of_entries_nil hnil ▸ rfl)
    · exact hs (h.eq_of_entries_nil hnil ▸ rfl)
  have hnone : keysIn? s path = none := by
    cases s with
    | fields es => exact absurd rfl hs
    | messages => exact absurd rfl hs
    | _ => rfl
  simp [hnone, hnot]

/-- The message texts list the codes, whatever follows. -/
theorem keysIn?_messages_iff {path keys : List String} :
    keysIn? messages path = some keys ↔ Lists messages path keys := by
  rw [keysIn?, Option.some_inj, eq_comm]
  constructor
  · intro hk
    exact .inr ⟨[], path, rfl, .here _, hk⟩
  · rintro (⟨inner, h, -⟩ | ⟨chain, more, -, -, hk⟩)
    · cases (h.eq_messages rfl).2
    · exact hk

theorem lists_fields_nil_iff {es : List (String × Shape)} {keys : List String} :
    Lists (fields es) [] keys ↔ keys = es.map (·.1) := by
  unfold Lists
  constructor
  · rintro (⟨inner, h, rfl⟩ | ⟨chain, more, he, h, -⟩)
    · cases place_nil_iff.1 h
      rfl
    · obtain ⟨rfl, -⟩ := List.append_eq_nil_iff.1 he.symm
      cases place_nil_iff.1 h
  · intro hk
    exact .inl ⟨es, .here _, hk⟩

theorem lists_fields_cons_iff {es : List (String × Shape)} (hu : (es.map (·.1)).Nodup) {k : String}
    {path keys : List String} :
    Lists (fields es) (k :: path) keys ↔ ∃ s, find? es k = some s ∧ Lists s path keys := by
  constructor
  · rintro (⟨inner, h, hk⟩ | ⟨chain, more, he, h, hk⟩)
    · obtain ⟨s, hs, h⟩ := (place_fields_cons_iff hu).1 h
      exact ⟨s, hs, .inl ⟨inner, h, hk⟩⟩
    · cases chain with
      | nil => cases place_nil_iff.1 h
      | cons k' chain =>
        cases he
        obtain ⟨s, hs, h⟩ := (place_fields_cons_iff hu).1 h
        exact ⟨s, hs, .inr ⟨chain, more, rfl, h, hk⟩⟩
  · rintro ⟨s, hs, ⟨inner, h, hk⟩ | ⟨chain, more, rfl, h, hk⟩⟩
    · exact .inl ⟨inner, (place_fields_cons_iff hu).2 ⟨s, hs, h⟩, hk⟩
    · exact .inr ⟨k :: chain, more, rfl, (place_fields_cons_iff hu).2 ⟨s, hs, h⟩, hk⟩

/-- The walk finds what the table lists: one step for each key of the path. -/
theorem keysIn?_eq_some_iff {s : Shape} (hs : s.wellMade = true) {path keys : List String} :
    keysIn? s path = some keys ↔ Lists s path keys := by
  induction path generalizing s with
  | nil =>
    cases s with
    | fields es => rw [lists_fields_nil_iff, keysIn?, keysBelow?, Option.some_inj, eq_comm]
    | messages => exact keysIn?_messages_iff
    | text | list _ | choices => exact keysIn?_leaf_iff (by simp [kind])
  | cons k path ih =>
    cases s with
    | fields es =>
      have hu : (es.map (·.1)).Nodup := nodup_entries hs
      rw [lists_fields_cons_iff hu, keysIn?, keysBelow?_cons, Option.bind_eq_some_iff]
      apply exists_congr
      intro s
      apply and_congr_right
      intro hf
      exact ih (wellMade_of_mem hs (mem_of_find?_key hf)).2
    | messages => exact keysIn?_messages_iff
    | text | list _ | choices => exact keysIn?_leaf_iff (by simp [kind])

/-! ## Keys between dots -/

/-- The keys of a path. The empty path has none. -/
def pathKeys (path : String) : List String :=
  if path.isEmpty then [] else (Text.splitOn ['.'] path.toList).map String.ofList

theorem sectionKeys?_eq (path : String) : sectionKeys? path = keysIn? whole (pathKeys path) := by
  unfold sectionKeys? pathKeys
  split <;> rfl

theorem intercalate_pathKeys (path : String) : ".".intercalate (pathKeys path) = path := by
  unfold pathKeys
  split
  · next he => exact (String.isEmpty_iff.1 he).symm
  · apply String.toList_inj.1
    rw [String.toList_intercalate, List.map_map]
    have hid : String.toList ∘ String.ofList = id := funext fun _ => String.toList_ofList
    rw [hid, List.map_id]
    exact Text.intercalate_splitOn _ _

theorem intercalate_ne_empty {keys : List String} (hne : keys ≠ [])
    (h : ∀ k ∈ keys, KeyPath.isPlain k = true) : ".".intercalate keys ≠ "" := by
  intro he
  have hp := KeyPath.parse_dotted hne h
  rw [he] at hp
  cases hp

theorem pathKeys_dotted {keys : List String} (h : ∀ k ∈ keys, KeyPath.isPlain k = true) :
    pathKeys (".".intercalate keys) = keys := by
  by_cases hne : keys = []
  · subst hne
    rfl
  · rw [pathKeys, if_neg (by simpa using intercalate_ne_empty hne h), KeyPath.splitOn_dotted hne h,
      List.map_map]
    simp

/-- Behind a dot more keys follow. -/
theorem pathKeys_below {keys : List String} (hne : keys ≠ []) (h : ∀ k ∈ keys, KeyPath.isPlain k = true)
    (more : String) :
    ∃ back, pathKeys (".".intercalate keys ++ "." ++ more) = keys ++ back := by
  refine ⟨(Text.splitOn ['.'] more.toList).map String.ofList, ?_⟩
  rw [pathKeys, if_neg (by simp), String.toList_append, String.toList_append]
  show (Text.splitOn ['.'] (_ ++ ['.'] ++ _)).map String.ofList = _
  rw [(Text.borderless_singleton '.').splitOn_append (by simp), KeyPath.splitOn_dotted hne h,
    List.map_append, List.map_map]
  simp

/-! ## Sections by path -/

/-- The keys of a section are listed under the keys that lead to it, joined by dots. -/
theorem sectionKeys?_dotted {t : Shape} {keys : List String} (h : Place whole keys t)
    (ht : t.kind = .bundle) :
    sectionKeys? (".".intercalate keys) = some (t.entries.map (·.1)) := by
  rw [sectionKeys?_eq, pathKeys_dotted h.isPlain, keysIn?_eq_some_iff wellMade_whole]
  cases t with
  | fields inner => exact .inl ⟨inner, h, rfl⟩
  | messages => exact .inr ⟨keys, [], (List.append_nil _).symm, h, keys_messages⟩
  | _ => cases ht

/-- The keys of a section of fields are listed under its path, and the codes under the path of the message
texts and under all that follows it behind a dot. Nothing is listed under any other path. -/
theorem sectionKeys?_eq_some_iff (path : String) (keys : List String) :
    sectionKeys? path = some keys ↔
      (∃ chain inner, Place whole chain (fields inner) ∧ path = ".".intercalate chain ∧
        keys = inner.map (·.1)) ∨
      ∃ chain, Place whole chain messages ∧
        (path = ".".intercalate chain ∨ ∃ more, path = ".".intercalate chain ++ "." ++ more) ∧
        keys = MessageCode.all.map MessageCode.key := by
  rw [sectionKeys?_eq, keysIn?_eq_some_iff wellMade_whole]
  constructor
  · rintro (⟨inner, h, hk⟩ | ⟨chain, more, he, h, hk⟩)
    · exact .inl ⟨_, inner, h, (intercalate_pathKeys path).symm, hk⟩
    · refine .inr ⟨chain, h, ?_, hk⟩
      rw [← intercalate_pathKeys path, he]
      by_cases hm : more = []
      · exact .inl (by rw [hm, List.append_nil])
      · have hc : chain ≠ [] := by
          rintro rfl
          cases place_nil_iff.1 h
        exact .inr ⟨_, String.intercalate_append_of_ne_nil hc hm⟩
  · rintro (⟨chain, inner, h, rfl, hk⟩ | ⟨chain, h, hp, hk⟩)
    · rw [pathKeys_dotted h.isPlain]
      exact .inl ⟨inner, h, hk⟩
    · right
      rcases hp with rfl | ⟨more, rfl⟩
      · exact ⟨chain, [], by rw [pathKeys_dotted h.isPlain, List.append_nil], h, hk⟩
      · have hc : chain ≠ [] := by
          rintro rfl
          cases place_nil_iff.1 h
        obtain ⟨back, hb⟩ := pathKeys_below hc h.isPlain more
        exact ⟨chain, back, hb, h, hk⟩

/-- The path of a message is the path of a text, and the codes are listed under it: that something is listed
under a path does not make it the path of a section. -/
theorem not_forall_sectionKeys?_place :
    ¬ ∀ path, (sectionKeys? path).isSome = true ↔
      ∃ chain t, Place whole chain t ∧ t.kind = .bundle ∧ path = ".".intercalate chain := by
  intro h
  obtain ⟨chain, t, hp, ht, he⟩ := (h "tripPlanner.msgcodes.200").1 (by decide +kernel)
  have hchain : chain = ["tripPlanner", "msgcodes"] ++ ["200"] := by
    rw [← pathKeys_dotted hp.isPlain, ← he]
    decide +kernel
  rw [hchain, place_append_iff] at hp
  obtain ⟨r, hr, hp⟩ := hp
  obtain rfl := place_messages.unique wellMade_whole hr
  cases (hp.eq_messages ht).1

end TripLocale.Shape
