/-
A lookup is a walk into the JSON of the bundle: it succeeds exactly when the texts of its segments lead
somewhere in the JSON value, and what it finds is then, as JSON, what stands there. A lookup that fails
does so where the walk is stuck, and its error says whether that is an object, an array or a string.

The walk knows nothing of bundles: `Json.Step` enters an object by the name of a member and an array by
the numeral of a position. The simulation relation is `Target.toJson`; one step keeps it
(`Target.step_toJson`), and keys that are unique make the walk deterministic.
-/
import Mathlib.Data.List.Nodup
import TripLocale.Proofs.Bundle.Reach
import TripLocale.Proofs.Outcome

namespace TripLocale

/-! ## Walking JSON -/

namespace Json

/-- One step into a JSON value: to the member of a name, or to the item at the position whose decimal
numeral is the text. -/
inductive Step : Json → String → Json → Prop
  | member {name : String} {j : Json} {members : List (String × Json)} :
      (name, j) ∈ members → Step (.object members) name j
  | item {i : Nat} {j : Json} {items : List Json} :
      items[i]? = some j → Step (.array items) (toString i) j

/-- `Walk j texts k`: the steps along `texts` lead from `j` to `k`. -/
def Walk : Json → List String → Json → Prop
  | j, [], k => j = k
  | j, t :: texts, k => ∃ i, Step j t i ∧ Walk i texts k

/-- An array has one item at a position. -/
theorem Step.array_unique {items : List Json} {x : String} {j k : Json} (hj : Step (.array items) x j)
    (hk : Step (.array items) x k) : j = k := by
  cases hj with
  | item hij =>
    generalize hx : toString (_ : Nat) = x at hk
    cases hk with
    | item hik =>
      obtain rfl := Text.toString_inj hx
      exact Option.some.inj (hij.symm.trans hik)

/-- An object with distinct names has one member of a name. -/
theorem Step.object_unique {members : List (String × Json)} (hu : (members.map (·.1)).Nodup) {x : String}
    {j k : Json} (hj : Step (.object members) x j) (hk : Step (.object members) x k) : j = k := by
  cases hj with
  | member hmj =>
    cases hk with
    | member hmk => exact congrArg Prod.snd (List.inj_on_of_nodup_map hu hmj hmk rfl)

end Json

namespace Target

/-! ## One step -/

/-- What has numbered places is an array of them. -/
theorem toJson_of_size? {r : Target} {n : Nat} (h : r.size? = some n) :
    ∃ items, r.toJson = .array items ∧ items.length = n ∧ ∀ i : Nat, items[i]? = (r.item? i).map toJson := by
  match r, h with
  | value (.list items), rfl =>
    refine ⟨items.map .string, rfl, by simp, fun i => ?_⟩
    cases hi : items[i]? <;> simp [item?, toJson, hi]
  | value (.choices cs), rfl =>
    refine ⟨cs.map Choice.toJson, rfl, by simp, fun i => ?_⟩
    cases hi : cs[i]? <;> simp [item?, toJson, hi]
  | choice c, rfl =>
    refine ⟨[.string c.value, .string c.label], rfl, rfl, fun i => ?_⟩
    obtain _ | _ | i := i <;> rfl

theorem toJson_bundle (es : List (String × Value)) :
    (value (.bundle es)).toJson = .object (es.map fun e => (e.1, e.2.toJson)) := by
  rw [← Value.entriesToJson_eq_map]
  rfl

theorem toJson_of_text? {r : Target} {t : String} (h : r.text? = some t) : r.toJson = .string t := by
  match r, h with
  | value (.text _), rfl => rfl
  | text _, rfl => rfl

/-- A step of a lookup is a step into its JSON. -/
theorem step_toJson {r t : Target} {s : Segment} (h : r.step s = .ok t) :
    r.toJson.Step s.text t.toJson := by
  rcases step_eq_ok_iff.1 h with ⟨es, v, rfl, hv, rfl⟩ | ⟨n, i, hn, hi, ht⟩
  · rw [toJson_bundle]
    exact .member (List.mem_map_of_mem (f := fun e => (e.1, e.2.toJson)) (Bundle.mem_of_child?_eq_some hv))
  · obtain ⟨items, hj, -, hitems⟩ := toJson_of_size? hn
    rw [hj, (Segment.index?_eq_some_iff.1 hi).2]
    exact .item (by rw [hitems, ht, Option.map_some])

/-- Where a lookup cannot take a step its JSON has none. -/
theorem not_step_of_error {r : Target} {s : Segment} {stuck : Stuck}
    (hl : r.Everywhere fun v => v.places < Nat.pow 2 64) (h : r.step s = .error stuck) (j : Json) :
    ¬ r.toJson.Step s.text j := by
  intro hs
  rcases step_eq_error_iff.1 h with ⟨es, rfl, hv, -⟩ | ⟨n, hn, hi, -⟩ | ⟨t, ht, -⟩
  · rw [toJson_bundle] at hs
    cases hs with
    | member hm =>
      obtain ⟨e, he, heq⟩ := List.mem_map.1 hm
      exact Bundle.child?_eq_none_iff.1 hv (List.mem_map.2 ⟨e, he, congrArg Prod.fst heq⟩)
  · obtain ⟨items, hj, hlen, -⟩ := toJson_of_size? hn
    rw [hj] at hs
    generalize hx : s.text = x at hs
    cases hs with
    | item hm =>
      have hlt := (List.getElem?_eq_some_iff.1 hm).1
      exact text_ne_of_bind_eq_none hl hn hi (hlen ▸ hlt) hx
  · rw [toJson_of_text? ht] at hs
    cases hs

/-- With unique keys there is at most one step along a text. -/
theorem step_unique {r : Target} (hu : r.Everywhere fun v => (v.entries.map (·.1)).Nodup) {x : String}
    {j k : Json} (hj : r.toJson.Step x j) (hk : r.toJson.Step x k) : j = k := by
  cases hn : r.size? with
  | some n =>
    obtain ⟨items, he, -⟩ := toJson_of_size? hn
    rw [he] at hj hk
    exact hj.array_unique hk
  | none =>
    match r, hn with
    | value (.bundle es), _ =>
      have hnames : ((es.map fun e => (e.1, e.2.toJson)).map (·.1)).Nodup := by
        rw [List.map_map]
        exact hu.here
      rw [toJson_bundle] at hj hk
      exact hj.object_unique hnames hk
    | value (.text t), _ => cases hj
    | text t, _ => cases hj

/-! ## Runs of steps -/

theorem reach_toJson {r t : Target} {segments : List Segment} (h : r.reach segments = .ok t) :
    r.toJson.Walk (segments.map Segment.text) t.toJson := by
  induction segments generalizing r with
  | nil => exact congrArg toJson (Except.ok.inj h)
  | cons s segments ih =>
    rw [reach_cons] at h
    obtain ⟨u, hu, h⟩ := bind_eq_ok_iff.1 h
    exact ⟨u.toJson, step_toJson hu, ih h⟩

/-- A walk into the JSON of a place is a run of steps from the place. -/
theorem exists_reach_of_walk {r : Target} {segments : List Segment} {j : Json}
    (hu : r.Everywhere fun v => (v.entries.map (·.1)).Nodup)
    (hl : r.Everywhere fun v => v.places < Nat.pow 2 64)
    (h : r.toJson.Walk (segments.map Segment.text) j) :
    ∃ t, r.reach segments = .ok t ∧ t.toJson = j := by
  induction segments generalizing r with
  | nil => exact ⟨r, rfl, h⟩
  | cons s segments ih =>
    obtain ⟨i, hi, h⟩ := h
    cases hs : r.step s with
    | error stuck => exact absurd hi (not_step_of_error hl hs i)
    | ok u =>
      -- the walk and the lookup step to the same place
      obtain rfl := step_unique hu hi (step_toJson hs)
      obtain ⟨t, ht, hj⟩ := ih (hu.step hs) (hl.step hs) h
      exact ⟨t, by rw [reach_cons, hs]; exact ht, hj⟩

end Target

/-! ## Lookups -/

namespace Bundle

/-- A step that cannot be taken, as an error: it shows what stands there. -/
theorem stuck_shape {t : Target} {s : Segment} {stuck : Stuck} (h : t.step s = .error stuck) :
    (∃ members, t.toJson = .object members ∧ stuck = .noChild) ∨
    (∃ items, t.toJson = .array items ∧ stuck = .outOfRange items.length) ∨
    (∃ x, t.toJson = .string x ∧ stuck = .notAContainer .text) := by
  rcases Target.step_eq_error_iff.1 h with ⟨es, rfl, -, rfl⟩ | ⟨n, hn, -, rfl⟩ | ⟨x, hx, rfl⟩
  · exact .inl ⟨_, Target.toJson_bundle es, rfl⟩
  · obtain ⟨items, hj, rfl, -⟩ := Target.toJson_of_size? hn
    exact .inr (.inl ⟨items, hj, rfl⟩)
  · exact .inr (.inr ⟨x, Target.toJson_of_text? hx, rfl⟩)

/-- A lookup walks into the JSON of the bundle. A path that does not parse is reported as such. For a path
that does, the lookup succeeds exactly when the walk along the texts of its segments reaches an end, and
it returns what stands there; where the walk is stuck the lookup fails, by a missing key at an object, an
index out of the range of an array, and for want of a container at a string, at the place that the texts
walked so far name. -/
theorem lookup_iff_walk {b : Bundle} (hu : b.KeysUnique) (hl : b.ListsFit) (path separator : String) :
    (∀ e, KeyPath.parse path separator = .error e → b.lookup path separator = .error (.badPath e)) ∧
    ∀ p, KeyPath.parse path separator = .ok p →
      (∀ j, b.toJson.Walk (p.segments.map Segment.text) j ↔
        ∃ r, b.lookup path separator = .ok r ∧ r.toJson = j) ∧
      ∀ front s back j, p.segments = front ++ s :: back →
        b.toJson.Walk (front.map Segment.text) j → (∀ k, ¬ j.Step s.text k) →
        (∃ members, j = .object members ∧
          b.lookup path separator = .error (.missingKey path s.text)) ∨
        (∃ items, j = .array items ∧ b.lookup path separator =
          .error (.indexOutOfRange path (KeyPath.render ⟨front⟩ separator) s.text items.length)) ∨
        (∃ t, j = .string t ∧ b.lookup path separator =
          .error (.notAContainer path (KeyPath.render ⟨front⟩ separator) .text)) := by
  refine ⟨fun e he => by rw [lookup, he], fun p hp => ⟨fun j => ?_, fun front s back j hseg hwalk hno => ?_⟩⟩
  · constructor
    · intro hwalk
      obtain ⟨r, hr, hj⟩ := Target.exists_reach_of_walk (r := b.root) hu.root hl hwalk
      exact ⟨r, lookup_eq_ok_iff.2 ⟨p, hp, hr⟩, hj⟩
    · rintro ⟨r, hr, rfl⟩
      obtain ⟨q, hq, hr⟩ := lookup_eq_ok_iff.1 hr
      cases hp.symm.trans hq
      exact Target.reach_toJson hr
  · obtain ⟨t, ht, rfl⟩ := Target.exists_reach_of_walk (r := b.root) hu.root hl hwalk
    obtain ⟨segments⟩ := p
    dsimp only at hseg
    subst hseg
    cases hs : t.step s with
    | ok u => exact absurd (Target.step_toJson hs) (hno u.toJson)
    | error stuck =>
      have herr : b.lookup path separator =
          .error (.ofStuck path (KeyPath.render ⟨front⟩ separator) s stuck) :=
        lookup_eq_error_iff.2 (.inr ⟨front, s, back, t, stuck, hp, ht, hs, rfl⟩)
      rcases stuck_shape hs with ⟨members, hj, rfl⟩ | ⟨items, hj, rfl⟩ | ⟨x, hj, rfl⟩
      · exact .inl ⟨members, hj, herr⟩
      · exact .inr (.inl ⟨items, hj, herr⟩)
      · exact .inr (.inr ⟨x, hj, herr⟩)

/-- The walk to the second month, and the lookup that it stands for. -/
theorem lookup_walk_month :
    planner.KeysUnique ∧ planner.ListsFit ∧
      KeyPath.parse "time.months[1]" "." = .ok ⟨[.key "time", .key "months", .index "1"]⟩ ∧
      ∃ r, planner.lookup "time.months[1]" "." = .ok r ∧ r.toJson = .string "Lut" := by
  have hp : KeyPath.parse "time.months[1]" "." = .ok ⟨[.key "time", .key "months", .index "1"]⟩ := by
    decide +kernel
  refine ⟨planner_keysUnique, planner_listsFit, hp, ?_⟩
  have h := (lookup_iff_walk planner_keysUnique planner_listsFit "time.months[1]" ".").2 _ hp
  refine (h.1 _).1 ⟨_, .member (List.mem_cons_self ..), _, .member (List.mem_cons_self ..), _, ?_, rfl⟩
  exact Json.Step.item (i := 1) rfl

end Bundle

end TripLocale
