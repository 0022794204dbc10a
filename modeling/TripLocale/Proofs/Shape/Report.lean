/-
What the shape check reports, and in which order (`shapeErrors_listed`).

A place of the table is looked at when the keys on the way to it lead from section to section of the bundle.
A value that is found there may have a fault of its own (`Fault`): it is of the wrong kind or length, or it is
a section that lacks a key or has one too many. `Differs` says which faults there are anywhere, and the keys
that lead to them; the check reports each of them once (`enumerates_check`).

Of two faults in one section the one under the earlier key is reported first, where the keys of the table come
before those that only the bundle has (`Precedes`).
-/
import TripLocale.Proofs.Listing
import TripLocale.Proofs.Shape.Conform

namespace TripLocale

namespace Shape

/-! ## Faults -/

/-- `t.Fault u text keys e`: `u`, which stands for `t`, has the fault `e`, and `keys` lead from `u` to the place
it is reported for; `text` is the path of a place by its keys. -/
inductive Fault (t : Shape) (u : Value) (text : List String → String) : List String → ShapeError → Prop
  | kind : u.kind ≠ t.kind → Fault t u text [] (.wrongKind (text []) t.kind u.kind)
  | length {n : Nat} {items : List String} :
      t = .list n → u = .list items → items.length ≠ n →
        Fault t u text [] (.wrongLength (text []) n items.length)
  | missing {es : List (String × Value)} {k : String} :
      u = .bundle es → k ∈ t.entries.map (·.1) → k ∉ es.map (·.1) →
        Fault t u text [k] (.missingKey (text [k]))
  | unexpected {es : List (String × Value)} {k : String} :
      u = .bundle es → t.kind = .bundle → k ∈ es.map (·.1) → ¬ t.Allows k →
        Fault t u text [k] (.unexpectedKey (text [k]))

/-- `s.Differs v text keys e`: `v`, which stands for `s`, or a value that stands for a place of `s` has the fault
`e`, and `keys` lead from `v` to the place it is reported for. -/
def Differs (s : Shape) (v : Value) (text : List String → String) (keys : List String) (e : ShapeError) :
    Prop :=
  ∃ front t u back, keys = front ++ back ∧ Place s front t ∧ v.under? front = some u ∧
    t.Fault u (fun p => text (front ++ p)) back e

/-- A difference is a fault of the value itself or one under a key of the table. -/
theorem differs_iff {s : Shape} {v : Value} {text : List String → String} {keys : List String}
    {e : ShapeError} : s.Differs v text keys e ↔ s.Fault v text keys e ∨
      ∃ x ∈ s.entries, ∃ w p, v.child? x.1 = some w ∧ keys = x.1 :: p ∧
        x.2.Differs w (fun q => text (x.1 :: q)) p e := by
  constructor
  · rintro ⟨front, t, u, back, rfl, hp, hu, hf⟩
    cases hp with
    | here =>
      cases hu
      exact .inl hf
    | under hm hp =>
      rw [Value.under?_cons] at hu
      obtain ⟨w, hw, hu⟩ := Option.bind_eq_some_iff.1 hu
      exact .inr ⟨_, hm, w, _, hw, rfl, _, t, u, back, rfl, hp, hu, hf⟩
  · rintro (hf | ⟨x, hm, w, p, hw, rfl, front, t, u, back, rfl, hp, hu, hf⟩)
    · exact ⟨[], s, v, keys, rfl, .here s, rfl, hf⟩
    · refine ⟨x.1 :: front, t, u, back, rfl, .under hm hp, ?_, hf⟩
      rw [Value.under?_cons, hw]
      exact hu

/-- Nothing is looked at under a value of another kind. -/
theorem differs_of_kind_ne {s : Shape} {v : Value} {text : List String → String} {keys : List String}
    {e : ShapeError} (h : v.kind ≠ s.kind) :
    s.Differs v text keys e ↔ keys = [] ∧ e = .wrongKind (text []) s.kind v.kind := by
  rw [differs_iff]
  constructor
  -- every other fault, and every value under a key, is one of a value of the right kind
  · rintro (hf | ⟨x, hm, w, p, hw, -⟩)
    · cases hf with
      | kind => exact ⟨rfl, rfl⟩
      | length hs hv => exact absurd (by rw [hs, hv]; rfl) h
      | missing hv hk =>
        obtain ⟨x, hm, -⟩ := List.mem_map.1 hk
        exact absurd (by rw [hv, kind_eq_bundle_of_mem_entries hm]; rfl) h
      | unexpected hv hs => exact absurd (by rw [hv, hs]; rfl) h
    · obtain ⟨es, rfl, -⟩ := Value.child?_eq_some_iff.1 hw
      exact absurd (kind_eq_bundle_of_mem_entries hm).symm h
  · rintro ⟨rfl, rfl⟩
    exact .inl (.kind h)

/-- Of a value that is no section only its length can be wrong. -/
theorem differs_leaf_iff {s : Shape} {v : Value} {text : List String → String} {keys : List String}
    {e : ShapeError} (hs : s.kind ≠ .bundle) (hk : v.kind = s.kind) :
    s.Differs v text keys e ↔ ∃ n items, s = .list n ∧ v = .list items ∧ items.length ≠ n ∧
      keys = [] ∧ e = .wrongLength (text []) n items.length := by
  rw [differs_iff]
  constructor
  · rintro (hf | ⟨x, hm, -⟩)
    · cases hf with
      | kind h => exact absurd hk h
      | @length n items hl hv h => exact ⟨n, items, hl, hv, h, rfl, rfl⟩
      | missing hv => exact absurd (by rw [← hk, hv]; rfl) hs
      | unexpected hv h => exact absurd h hs
    · exact absurd (kind_eq_bundle_of_mem_entries hm) hs
  · rintro ⟨n, items, rfl, rfl, h, rfl, rfl⟩
    exact .inl (.length rfl rfl h)

/-- In the section `es`, the key of the entry `x` of the table is missing, or the value under it differs. -/
def EntryDiffers (es : List (String × Value)) (text : List String → String) (x : String × Shape)
    (keys : List String) (e : ShapeError) : Prop :=
  ∃ p, keys = x.1 :: p ∧
    match Bundle.child? ⟨es⟩ x.1 with
    | some w => x.2.Differs w (fun q => text (x.1 :: q)) p e
    | none => p = [] ∧ e = .missingKey (text [x.1])

/-- A section differs in the entries of the table and in the keys that it should not have. -/
theorem differs_bundle_iff {s : Shape} {es : List (String × Value)} {text : List String → String}
    {keys : List String} {e : ShapeError} (hs : s.kind = .bundle) :
    s.Differs (.bundle es) text keys e ↔ (∃ x ∈ s.entries, EntryDiffers es text x keys e) ∨
      ∃ k ∈ es.map (·.1), ¬ s.Allows k ∧ keys = [k] ∧ e = .unexpectedKey (text [k]) := by
  rw [differs_iff]
  constructor
  · rintro (hf | ⟨x, hm, w, p, hw, rfl, hd⟩)
    · cases hf with
      | kind h => exact absurd hs.symm h
      | length hl => rw [hl] at hs; cases hs
      | missing hv hk hn =>
        cases hv
        obtain ⟨x, hm, rfl⟩ := List.mem_map.1 hk
        refine .inl ⟨x, hm, [], rfl, ?_⟩
        rw [Bundle.child?_eq_none_iff.2 hn]
        exact ⟨rfl, rfl⟩
      | unexpected hv _ hk ha =>
        cases hv
        exact .inr ⟨_, hk, ha, rfl, rfl⟩
    · refine .inl ⟨x, hm, p, rfl, ?_⟩
      obtain ⟨es', hes, hw⟩ := Value.child?_eq_some_iff.1 hw
      cases hes
      rw [hw]
      exact hd
  · rintro (⟨x, hm, p, rfl, hd⟩ | ⟨k, hk, ha, rfl, rfl⟩)
    · cases hw : Bundle.child? ⟨es⟩ x.1 with
      | some w =>
        rw [hw] at hd
        exact .inr ⟨x, hm, w, p, Value.child?_eq_some_iff.2 ⟨es, rfl, hw⟩, rfl, hd⟩
      | none =>
        rw [hw] at hd
        obtain ⟨rfl, rfl⟩ := hd
        exact .inl (.missing rfl (List.mem_map_of_mem hm) (Bundle.child?_eq_none_iff.1 hw))
    · exact .inl (.unexpected rfl hs hk ha)

/-! ## The order of the report -/

/-- The keys of a section in the order of the report, some of them twice: those of the table, then those of
the bundle. -/
def reportOrder (t : Shape) (es : List (String × Value)) : List String :=
  t.entries.map (·.1) ++ es.map (·.1)

/-- `s.Precedes v p q`: the keys `p` and `q` part in a section, where `p` goes on under the earlier key. -/
inductive Precedes (s : Shape) (v : Value) : List String → List String → Prop
  | part {t : Shape} {es : List (String × Value)} {k l : String} (front p q : List String) :
      Place s front t → v.under? front = some (.bundle es) →
        (t.reportOrder es).idxOf k < (t.reportOrder es).idxOf l →
          Precedes s v (front ++ k :: p) (front ++ l :: q)

theorem Precedes.under {s r : Shape} {v w : Value} {k : String} {p q : List String}
    (hm : (k, r) ∈ s.entries) (hw : v.child? k = some w) (h : r.Precedes w p q) :
    s.Precedes v (k :: p) (k :: q) := by
  cases h with
  | @part t es k' l' front p q hp hes hlt =>
    refine .part (k :: front) p q (.under hm hp) ?_ hlt
    rw [Value.under?_cons, hw]
    exact hes

/-- Of two places in this order, neither is the other or lies below it. -/
theorem Precedes.apart {s : Shape} {v : Value} {p q : List String} (h : s.Precedes v p q) :
    ¬ p <+: q ∧ ¬ q <+: p := by
  cases h with
  | @part t es k l front p q hp hes hlt =>
    have hkl : k ≠ l := by
      rintro rfl
      exact Nat.lt_irrefl _ hlt
    simp [List.prefix_append_right_inj, List.cons_prefix_cons, hkl, hkl.symm]

theorem pairwise_idxOf {xs : List String} (h : xs.Nodup) :
    xs.Pairwise fun k l => xs.idxOf k < xs.idxOf l := by
  rw [List.pairwise_iff_getElem]
  intro i j hi hj hij
  rwa [h.idxOf_getElem i hi, h.idxOf_getElem j hj]

section Order

variable {t : Shape} {es : List (String × Value)} {k l : String}

theorem idxOf_reportOrder_of_mem (h : k ∈ t.entries.map (·.1)) :
    (t.reportOrder es).idxOf k = (t.entries.map (·.1)).idxOf k := List.idxOf_append_of_mem h

theorem idxOf_reportOrder_of_not_allows (h : ¬ t.Allows k) :
    (t.reportOrder es).idxOf k = t.entries.length + (es.map (·.1)).idxOf k := by
  rw [reportOrder, List.idxOf_append_of_notMem fun hk => h (allows_of_mem_keys hk), List.length_map]

theorem pairwise_entries (hw : t.wellMade = true) (es : List (String × Value)) :
    t.entries.Pairwise fun x y => (t.reportOrder es).idxOf x.1 < (t.reportOrder es).idxOf y.1 := by
  have h := pairwise_idxOf (nodup_entries hw)
  rw [List.pairwise_map] at h
  refine h.imp_of_mem fun {x y} hx hy hlt => ?_
  rwa [idxOf_reportOrder_of_mem (List.mem_map_of_mem hx), idxOf_reportOrder_of_mem (List.mem_map_of_mem hy)]

theorem idxOf_entry_lt {x : String × Shape} (hx : x ∈ t.entries) (hl : ¬ t.Allows l) :
    (t.reportOrder es).idxOf x.1 < (t.reportOrder es).idxOf l := by
  have hm : x.1 ∈ t.entries.map (·.1) := List.mem_map_of_mem hx
  have hlt := List.idxOf_lt_length_of_mem hm
  rw [List.length_map] at hlt
  rw [idxOf_reportOrder_of_mem hm, idxOf_reportOrder_of_not_allows hl]
  omega

theorem pairwise_unexpected (hu : (es.map (·.1)).Nodup) {known : String → Bool}
    (hk : ∀ k, known k = true ↔ t.Allows k) :
    ((es.map (·.1)).filter fun k => !known k).Pairwise fun k l =>
      (t.reportOrder es).idxOf k < (t.reportOrder es).idxOf l := by
  refine ((pairwise_idxOf hu).filter _).imp_of_mem fun {k l} hkm hlm hlt => ?_
  have without : ∀ {k}, k ∈ (es.map (·.1)).filter (fun k => !known k) → ¬ t.Allows k := fun hm ha => by
    simp [(hk _).2 ha] at hm
  rw [idxOf_reportOrder_of_not_allows (without hkm), idxOf_reportOrder_of_not_allows (without hlm)]
  omega

end Order

/-! ## The report -/

/-- The report on an entry of the table. -/
def checkEntry (place : String → String) (b : Bundle) (x : String × Shape) : List ShapeError :=
  match b.child? x.1 with
  | some v => check (place x.1) v x.2
  | none => [.missingKey (place x.1)]

theorem checkFields_eq_flatMap (place : String → String) (b : Bundle) (entries : List (String × Shape)) :
    checkFields place b entries = entries.flatMap (checkEntry place b) := by
  induction entries with
  | nil => rfl
  | cons x entries ih =>
    rw [checkFields, ih, List.flatMap_cons]
    rfl

theorem checkMessage_eq_checkEntry (place : String → String) (b : Bundle) (c : MessageCode) :
    checkMessage place b c = checkEntry place b (c.key, text) := by
  rw [checkMessage, checkEntry]
  cases b.child? c.key with
  | none => rfl
  | some v =>
    cases v with
    | _ => rfl

/-- The report on a section: on the entries of the table, then on the keys that are not known. -/
theorem exists_check_bundle {s : Shape} (hs : s.kind = .bundle) (path : String)
    (es : List (String × Value)) : ∃ known : String → Bool, (∀ k, known k = true ↔ s.Allows k) ∧
      check path (.bundle es) s = s.entries.flatMap (checkEntry (fun k => path ++ "." ++ k) ⟨es⟩) ++
        unexpected (fun k => path ++ "." ++ k) known ⟨es⟩ := by
  cases s with
  | fields entries =>
    refine ⟨fun k => entries.any (·.1 == k), fun k => by simp [Allows], ?_⟩
    rw [check, checkFields_eq_flatMap]
    rfl
  | messages =>
    refine ⟨fun k => (MessageCode.read? k).isSome, fun k => Option.isSome_iff_exists, ?_⟩
    rw [check, checkMessages, funext (checkMessage_eq_checkEntry _ _), entries, List.flatMap_map]
  | _ => cases hs

/-- The path of what `keys` lead to from `path`. -/
def pathBelow (path : String) (keys : List String) : String := ".".intercalate (path :: keys)

theorem pathBelow_nil (path : String) : pathBelow path [] = path := by simp [pathBelow]

theorem pathBelow_cons (path k : String) (keys : List String) :
    pathBelow path (k :: keys) = pathBelow (path ++ "." ++ k) keys := by
  apply String.toList_inj.1
  cases keys with
  | nil => simp [pathBelow]
  | cons k' keys => simp [pathBelow, String.toList_intercalate]

section Section

variable {s : Shape} {es : List (String × Value)} {text : List String → String} {place : String → String}

/-- What is reported of an entry, provided that the report on its value is exact. -/
theorem enumerates_entry {x : String × Shape} (hx : x ∈ s.entries) (hp : ∀ k, place k = text [k])
    (h : ∀ w, Bundle.child? ⟨es⟩ x.1 = some w →
      Enumerates (x.2.Differs w fun q => text (x.1 :: q)) (x.2.Precedes w) (check (place x.1) w x.2)) :
    Enumerates (EntryDiffers es text x) (s.Precedes (.bundle es)) (checkEntry place ⟨es⟩ x) := by
  rw [checkEntry]
  cases hw : Bundle.child? ⟨es⟩ x.1 with
  | none =>
    refine enumerates_singleton (k := [x.1]) fun keys e => ?_
    rw [EntryDiffers, hw, hp]
    simp
  | some w =>
    have hchild : (Value.bundle es).child? x.1 = some w := Value.child?_eq_some_iff.2 ⟨es, rfl, hw⟩
    refine ((h w hw).image (x.1 :: ·) fun p q => Precedes.under hx hchild).congr fun keys e => ?_
    rw [EntryDiffers, hw]

/-- What is reported of a section, provided that the reports on the values in it are exact. -/
theorem enumerates_section (hs : s.kind = .bundle) (hw : s.wellMade = true) (hu : (es.map (·.1)).Nodup)
    (hp : ∀ k, place k = text [k]) {known : String → Bool} (hk : ∀ k, known k = true ↔ s.Allows k)
    (h : ∀ x ∈ s.entries, ∀ w, Bundle.child? ⟨es⟩ x.1 = some w →
      Enumerates (x.2.Differs w fun q => text (x.1 :: q)) (x.2.Precedes w) (check (place x.1) w x.2)) :
    Enumerates (s.Differs (.bundle es) text) (s.Precedes (.bundle es))
      (s.entries.flatMap (checkEntry place ⟨es⟩) ++ unexpected place known ⟨es⟩) := by
  have part : ∀ {k l : String} (p q : List String),
      (s.reportOrder es).idxOf k < (s.reportOrder es).idxOf l →
        s.Precedes (.bundle es) (k :: p) (l :: q) := fun p q hlt => .part [] p q (.here s) rfl hlt
  have hentries : Enumerates (fun keys e => ∃ x ∈ s.entries, EntryDiffers es text x keys e)
      (s.Precedes (.bundle es)) (s.entries.flatMap (checkEntry place ⟨es⟩)) := by
    refine enumerates_flatMap (fun x hx => enumerates_entry hx hp (h x hx)) ?_
    refine (pairwise_entries hw es).imp fun {x y} hlt => ?_
    rintro _ _ _ _ ⟨p, rfl, -⟩ ⟨q, rfl, -⟩
    exact part p q hlt
  have hmore : Enumerates
      (fun keys e => ∃ k ∈ (es.map (·.1)).filter fun k => !known k,
        keys = [k] ∧ e = .unexpectedKey (place k))
      (s.Precedes (.bundle es)) (unexpected place known ⟨es⟩) :=
    enumerates_map ((pairwise_unexpected hu hk).imp fun hlt => part [] [] hlt) _
  have hknown : ∀ k, (!known k) = true ↔ ¬ s.Allows k := fun k => by simp [← hk]
  refine (hentries.append hmore ?_).congr fun keys e => ?_
  · rintro _ _ _ _ ⟨x, hx, p, rfl, -⟩ ⟨l, hl, rfl, -⟩
    exact part p [] (idxOf_entry_lt hx ((hknown l).1 (List.mem_filter.1 hl).2))
  · rw [differs_bundle_iff hs]
    simp [hknown, hp, and_assoc]

end Section

theorem check_leaf {path : String} {v : Value} {s : Shape} (hs : s.kind ≠ .bundle) (hk : v.kind = s.kind) :
    check path v s = [] ∧ (∀ n, s = .list n → v.places = n) ∨
      ∃ n items, s = .list n ∧ v = .list items ∧ items.length ≠ n ∧
        check path v s = [.wrongLength path n items.length] := by
  cases s with
  | list n =>
    cases v with
    | list items =>
      by_cases hn : items.length = n
      · exact .inl ⟨by rw [check, if_pos hn], fun m hm => by cases hm; exact hn⟩
      · exact .inr ⟨n, items, rfl, rfl, hn, by rw [check, if_neg hn]⟩
    | _ => cases hk
  | text =>
    cases v with
    | text t => exact .inl ⟨rfl, fun n hn => by cases hn⟩
    | _ => cases hk
  | choices =>
    cases v with
    | choices cs => exact .inl ⟨rfl, fun n hn => by cases hn⟩
    | _ => cases hk
  | _ => exact absurd rfl hs

/-- The report on a value that is no section. -/
theorem enumerates_leaf {path : String} {v : Value} {s : Shape} (hs : s.kind ≠ .bundle)
    (hk : v.kind = s.kind) : Enumerates (s.Differs v (pathBelow path)) (s.Precedes v) (check path v s) := by
  rcases check_leaf hs hk with ⟨hc, hn⟩ | ⟨n, items, rfl, rfl, hn, hc⟩
  · rw [hc]
    refine enumerates_nil fun keys e hd => ?_
    obtain ⟨n, items, rfl, rfl, hne, -⟩ := (differs_leaf_iff hs hk).1 hd
    exact hne (hn n rfl)
  · rw [hc]
    refine enumerates_singleton (k := []) fun keys e => ?_
    rw [differs_leaf_iff hs hk, pathBelow_nil]
    constructor
    · rintro ⟨m, others, hm, ho, -, h⟩
      cases hm
      cases ho
      exact h
    · exact fun h => ⟨n, items, rfl, rfl, hn, h⟩

/-- The report on a value is exact if it is so on the values for the entries of the shape. -/
theorem enumerates_check_of_entries {s : Shape} (hw : s.wellMade = true) {v : Value} (hu : v.KeysUnique)
    (path : String)
    (h : ∀ x ∈ s.entries, ∀ {w : Value}, w.KeysUnique → ∀ path,
      Enumerates (x.2.Differs w (pathBelow path)) (x.2.Precedes w) (check path w x.2)) :
    Enumerates (s.Differs v (pathBelow path)) (s.Precedes v) (check path v s) := by
  by_cases hk : v.kind = s.kind
  · by_cases hs : s.kind = .bundle
    · obtain ⟨es, rfl⟩ : ∃ es, v = .bundle es := by
        cases v with
        | bundle es => exact ⟨es, rfl⟩
        | _ => rw [hs] at hk; cases hk
      obtain ⟨hkeys, hes⟩ := Value.keysUnique_bundle_iff.1 hu
      obtain ⟨known, hknown, hc⟩ := exists_check_bundle hs path es
      rw [hc]
      refine enumerates_section hs hw hkeys (fun k => ?_) hknown fun x hx w hxw => ?_
      · rw [pathBelow_cons, pathBelow_nil]
      · simp only [pathBelow_cons]
        exact h x hx (hes _ (Bundle.mem_of_child?_eq_some hxw)) _
    · exact enumerates_leaf hs hk
  · rw [check_of_kind_ne hk]
    refine enumerates_singleton (k := []) fun keys e => ?_
    rw [differs_of_kind_ne hk, pathBelow_nil]

/-- The check of a value lists what differs in it, in order. -/
theorem enumerates_check {s : Shape} (hw : s.wellMade = true) {v : Value} (hu : v.KeysUnique)
    (path : String) : Enumerates (s.Differs v (pathBelow path)) (s.Precedes v) (check path v s) := by
  induction s using induct generalizing v path with
  | fields es ih =>
    exact enumerates_check_of_entries hw hu path fun x hx _ hv path =>
      ih x hx (wellMade_of_mem hw hx).2 hv path
  | messages =>
    refine enumerates_check_of_entries hw hu path fun x hx w hv path => ?_
    -- the entries are texts, and these have none of their own
    obtain ⟨c, -, rfl⟩ := List.mem_map.1 hx
    exact enumerates_check_of_entries rfl hv path nofun
  | _ => exact enumerates_check_of_entries hw hu path nofun

end Shape

/-! ## Bundles -/

namespace Bundle

theorem shapeErrors_eq (b : Bundle) : ∃ known : String → Bool,
    (∀ k, known k = true ↔ Shape.whole.Allows k) ∧
      b.shapeErrors = Shape.whole.entries.flatMap (Shape.checkEntry id b) ++ Shape.unexpected id known b := by
  refine ⟨fun k => Shape.root.any (·.1 == k), fun k => by simp [Shape.Allows, Shape.whole], ?_⟩
  rw [shapeErrors, Shape.checkFields_eq_flatMap]
  rfl

/-- The check of a bundle with distinct keys reports each difference from the table once and nothing else.
In each section what is reported for a key of the table stands in order of the table, with all that is reported
below that key, and the keys that the section should not have follow in order of the bundle. Nothing is reported
twice for one place or below another place of the report. -/
theorem shapeErrors_listed {b : Bundle} (hu : b.KeysUnique) :
    ∃ found : List (List String × ShapeError), b.shapeErrors = found.map (·.2) ∧
      (∀ keys e, (keys, e) ∈ found ↔
        Shape.whole.Differs (.bundle b.entries) ".".intercalate keys e) ∧
      (found.map (·.1)).Pairwise (Shape.whole.Precedes (.bundle b.entries)) ∧
      (found.map (·.1)).Pairwise fun p q => ¬ p <+: q ∧ ¬ q <+: p := by
  obtain ⟨known, hknown, hb⟩ := b.shapeErrors_eq
  obtain ⟨hkeys, hes⟩ := Value.keysUnique_bundle_iff.1 hu
  have hlist : Enumerates (Shape.whole.Differs (.bundle b.entries) ".".intercalate)
      (Shape.whole.Precedes (.bundle b.entries)) b.shapeErrors := by
    rw [hb]
    refine Shape.enumerates_section rfl Shape.wellMade_whole hkeys (fun k => ?_) hknown fun x hx w hw => ?_
    · simp
    · exact Shape.enumerates_check (Shape.wellMade_of_mem Shape.wellMade_whole hx).2
        (hes _ (mem_of_child?_eq_some hw)) x.1
  obtain ⟨found, he, hm, ho⟩ := hlist
  exact ⟨found, he, hm, ho, ho.imp Shape.Precedes.apart⟩

theorem place_time : Shape.Place .whole ["time"]
    (.fields [("minute_abbrev", .text), ("minutes_abbrev", .text), ("second_abbrev", .text),
      ("seconds_abbrev", .text), ("months", .list 12)]) :=
  .under (List.mem_of_getElem? (i := 6) rfl) (.here _)

theorem place_months : Shape.Place .whole ["time", "months"] (.list 12) :=
  .under (List.mem_of_getElem? (i := 6) rfl) (.under (List.mem_of_getElem? (i := 4) rfl) (.here _))

theorem shapeErrors_listed_planner : planner.KeysUnique ∧
    .missingKey "time.minute_abbrev" ∈ planner.shapeErrors ∧
    .wrongLength "time.months" 12 2 ∈ planner.shapeErrors ∧
    .unexpectedKey "mode" ∈ planner.shapeErrors := by
  obtain ⟨found, he, hm, -⟩ := shapeErrors_listed planner_keysUnique
  have listed : ∀ keys e, Shape.whole.Differs (.bundle planner.entries) ".".intercalate keys e →
      e ∈ planner.shapeErrors := fun keys e hd => by
    rw [he]
    exact List.mem_map_of_mem (f := (·.2)) ((hm keys e).2 hd)
  refine ⟨planner_keysUnique, ?_, ?_, ?_⟩
  · exact listed _ _ ⟨["time"], _, _, ["minute_abbrev"], rfl, place_time, rfl,
      .missing rfl (by decide) (by decide)⟩
  · exact listed _ _ ⟨["time", "months"], _, _, [], rfl, place_months, rfl, .length rfl rfl (by decide)⟩
  · have hmode : "mode" ∉ Shape.root.map (·.1) := by decide
    exact listed _ _ ⟨[], _, _, ["mode"], rfl, .here _, rfl, .unexpected rfl rfl (by decide) hmode⟩

end Bundle

end TripLocale
