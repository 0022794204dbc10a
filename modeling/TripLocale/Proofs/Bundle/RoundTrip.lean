/-
Bundles and their JSON: `Bundle.ofJson` accepts a tree as a bundle exactly when it is the JSON of that
bundle and the bundle has no key twice and no empty list of choices, whose JSON is that of an empty list
(`ofJson_eq_ok_iff`).

With the round trip of JSON texts this makes reading the inverse of printing: a bundle is read back from
its compact text (`parse_render`), and a text that reads as a bundle differs from the printed one only in
what JSON leaves open.
-/
import TripLocale.Proofs.Bundle.Value
import TripLocale.Proofs.Json.Reader
import TripLocale.Proofs.Outcome

namespace TripLocale

/-! ## Arrays -/

theorem Json.texts?_eq_some_iff {js : List Json} {ts : List String} :
    Json.texts? js = some ts ↔ js = ts.map .string := by
  constructor
  · intro h
    induction js generalizing ts with
    | nil => cases h; rfl
    | cons j js ih =>
      match j, h with
      | .string s, h =>
        obtain ⟨ts', hts, rfl⟩ := Option.map_eq_some_iff.1 h
        rw [ih hts]
        rfl
  · rintro rfl
    induction ts with
    | nil => rfl
    | cons t ts ih => rw [List.map_cons, Json.texts?, ih, Option.map_some]

namespace Choice

theorem ofJson_eq_ok_iff {path : String} {j : Json} {c : Choice} :
    ofJson path j = .ok c ↔ c.toJson = j := by
  constructor
  · intro h
    unfold ofJson at h
    split at h
    · cases h; rfl
    · cases h
  · rintro rfl
    rfl

theorem ofItems_eq_ok_iff {path : String} {i : Nat} {js : List Json} {cs : List Choice} :
    ofItems path i js = .ok cs ↔ cs.map toJson = js := by
  induction js generalizing i cs with
  | nil => simp [ofItems, eq_comm]
  | cons j js ih =>
    rw [ofItems, bind_eq_ok_iff]
    constructor
    · rintro ⟨c, hc, h⟩
      obtain ⟨cs', hcs, h⟩ := bind_eq_ok_iff.1 h
      cases h
      rw [List.map_cons, ofJson_eq_ok_iff.1 hc, ih.1 hcs]
    · intro h
      cases cs with
      | nil => cases h
      | cons c cs =>
        obtain ⟨hc, hcs⟩ := List.cons.inj h
        exact ⟨c, ofJson_eq_ok_iff.2 hc, bind_eq_ok_iff.2 ⟨cs, ih.2 hcs, rfl⟩⟩

end Choice

namespace Value

theorem texts?_of_toJson_list {ts : List String} {items : List Json}
    (h : (Value.list ts).toJson = .array items) : Json.texts? items = some ts :=
  Json.texts?_eq_some_iff.2 (Json.Tree.array.inj h).symm

/-- An array is the list of its texts, or the choices that its items are. -/
theorem ofItems_eq_ok_iff {path : String} {items : List Json} {v : Value} :
    ofItems path items = .ok v ↔ v.toJson = .array items ∧ v ≠ .choices [] := by
  unfold ofItems
  cases ht : Json.texts? items with
  | some ts =>
    have hitems := Json.texts?_eq_some_iff.1 ht
    constructor
    · intro h
      cases h
      exact ⟨by rw [hitems]; rfl, nofun⟩
    · rintro ⟨hv, hne⟩
      cases v with
      | text t => cases hv
      | bundle es => cases hv
      | list items' =>
        rw [texts?_of_toJson_list hv] at ht
        cases ht
        rfl
      | choices cs =>
        -- the array of a choice is no string, so there is no choice
        have hcs : cs.map Choice.toJson = ts.map .string := hitems ▸ Json.Tree.array.inj hv
        cases cs with
        | nil => exact absurd rfl hne
        | cons c cs => cases ts <;> cases hcs
  | none =>
    rw [map_eq_ok_iff]
    constructor
    · rintro ⟨cs, hcs, rfl⟩
      have hitems := Choice.ofItems_eq_ok_iff.1 hcs
      refine ⟨by rw [← hitems]; rfl, ?_⟩
      rintro ⟨⟩
      cases hitems
      cases ht
    · rintro ⟨hv, hne⟩
      cases v with
      | text t => cases hv
      | bundle es => cases hv
      | list items' =>
        rw [texts?_of_toJson_list hv] at ht
        cases ht
      | choices cs => exact ⟨cs, Choice.ofItems_eq_ok_iff.2 (Json.Tree.array.inj hv), rfl⟩

/-! ## Values -/

/-- What a value read from JSON is like: no key occurs twice in a section, and an empty array was read as
an empty list. -/
structure Readable (v : Value) : Prop where
  keysUnique : v.KeysUnique
  choices_ne_nil : v.Everywhere (· ≠ .choices [])

theorem readable_bundle_iff {es : List (String × Value)} :
    (Value.bundle es).Readable ↔ (es.map (·.1)).Nodup ∧ ∀ e ∈ es, e.2.Readable := by
  constructor
  · rintro ⟨hu, hc⟩
    obtain ⟨hk, hes⟩ := keysUnique_bundle_iff.1 hu
    exact ⟨hk, fun e he => ⟨hes e he, (everywhere_bundle_iff.1 hc).2 e he⟩⟩
  · rintro ⟨hk, hes⟩
    exact ⟨keysUnique_bundle_iff.2 ⟨hk, fun e he => (hes e he).keysUnique⟩,
      everywhere_bundle_iff.2 ⟨nofun, fun e he => (hes e he).choices_ne_nil⟩⟩

theorem ofEntries_eq_ok_iff {path : String} {es : List (String × Value)} {v : Value} :
    ofEntries path es = .ok v ↔ (es.map (·.1)).Nodup ∧ v = .bundle es := by
  unfold ofEntries
  split
  · next b hb =>
    obtain ⟨hk, rfl⟩ := Bundle.ofEntries?_eq_ok_iff.1 hb
    simp [hk, eq_comm]
  · next key hb =>
    refine ⟨nofun, ?_⟩
    rintro ⟨hk, -⟩
    rw [Bundle.ofEntries?_eq_ok_iff.2 ⟨hk, rfl⟩] at hb
    cases hb

theorem ofMembers_eq_ok_iff {place : String → String} {ms : List (String × Json)}
    (h : ∀ m ∈ ms, ∀ path v, ofJson path m.2 = .ok v ↔ v.toJson = m.2 ∧ v.Readable)
    {es : List (String × Value)} :
    ofMembers place ms = .ok es ↔ entriesToJson es = ms ∧ ∀ e ∈ es, e.2.Readable := by
  induction ms generalizing es with
  | nil =>
    constructor
    · intro h
      cases h
      exact ⟨rfl, nofun⟩
    · rintro ⟨h, -⟩
      cases es with
      | nil => rfl
      | cons e es => cases h
  | cons m ms ih =>
    obtain ⟨k, j⟩ := m
    obtain ⟨hj, hms⟩ := List.forall_mem_cons.1 h
    rw [ofMembers, bind_eq_ok_iff]
    constructor
    · rintro ⟨v, hv, h⟩
      obtain ⟨es', hes, h⟩ := bind_eq_ok_iff.1 h
      cases h
      obtain ⟨hv, hvr⟩ := (hj _ v).1 hv
      obtain ⟨hes, hesr⟩ := (ih hms).1 hes
      exact ⟨by rw [entriesToJson, hv, hes], List.forall_mem_cons.2 ⟨hvr, hesr⟩⟩
    · rintro ⟨hall, hr⟩
      cases es with
      | nil => cases hall
      | cons e es =>
        obtain ⟨k', v⟩ := e
        obtain ⟨hvr, hesr⟩ := List.forall_mem_cons.1 hr
        obtain ⟨he, hes⟩ := List.cons.inj hall
        obtain ⟨rfl, hv⟩ := Prod.mk.inj he
        exact ⟨v, (hj _ v).2 ⟨hv, hvr⟩, bind_eq_ok_iff.2 ⟨es, (ih hms).2 ⟨hes, hesr⟩, rfl⟩⟩

/-- A tree is read as a value exactly when it is the JSON of that value. -/
theorem ofJson_eq_ok_iff {path : String} {j : Json} {v : Value} :
    ofJson path j = .ok v ↔ v.toJson = j ∧ v.Readable := by
  induction j using Json.Tree.induct generalizing path v with
  | null =>
    refine ⟨nofun, fun h => ?_⟩
    cases v <;> cases h.1
  | bool b =>
    refine ⟨nofun, fun h => ?_⟩
    cases v <;> cases h.1
  | number n =>
    refine ⟨nofun, fun h => ?_⟩
    cases v <;> cases h.1
  | string t =>
    rw [ofJson]
    constructor
    · intro h
      cases h
      exact ⟨rfl, trivial, by simp⟩
    · rintro ⟨h, -⟩
      cases v with
      | text t => cases h; rfl
      | _ => cases h
  | array items =>
    rw [ofJson, ofItems_eq_ok_iff]
    refine and_congr_right fun h => ?_
    cases v with
    | list items => exact ⟨fun _ => ⟨trivial, by simp⟩, fun _ => nofun⟩
    | choices cs => exact ⟨fun hne => ⟨trivial, by simpa using hne⟩, fun hr => hr.choices_ne_nil.here⟩
    | _ => cases h
  | object ms ih =>
    rw [ofJson, bind_eq_ok_iff]
    constructor
    · rintro ⟨es, hes, h⟩
      obtain ⟨hk, rfl⟩ := ofEntries_eq_ok_iff.1 h
      obtain ⟨hes, hr⟩ := (ofMembers_eq_ok_iff fun m hm path v => ih m hm).1 hes
      exact ⟨by rw [toJson, hes], readable_bundle_iff.2 ⟨hk, hr⟩⟩
    · rintro ⟨h, hr⟩
      cases v with
      | bundle es =>
        obtain ⟨hk, hr⟩ := readable_bundle_iff.1 hr
        rw [toJson] at h
        have hes := Json.Tree.object.inj h
        exact ⟨es, (ofMembers_eq_ok_iff fun m hm path v => ih m hm).2 ⟨hes, hr⟩,
          ofEntries_eq_ok_iff.2 ⟨hk, rfl⟩⟩
      | _ => cases h

/-- The JSON of a value consists of strings, arrays and objects. -/
theorem wordless_toJson (v : Value) : v.toJson.Wordless := by
  induction v with
  | text t => exact Json.wordless_string t
  | list items => exact Json.wordless_ofTexts items
  | choices cs =>
    rw [toJson, Json.wordless_array_iff, List.forall_mem_map]
    exact fun c _ => Json.wordless_ofTexts [c.value, c.label]
  | bundle es ih =>
    rw [toJson, entriesToJson_eq_map, Json.wordless_object_iff, List.forall_mem_map]
    exact ih

end Value

/-! ## Bundles -/

namespace Bundle

/-- A tree is read as a bundle exactly when it is the JSON of that bundle. -/
theorem ofJson_eq_ok_iff {j : Json} {b : Bundle} :
    ofJson j = .ok b ↔ b.toJson = j ∧ (Value.bundle b.entries).Readable := by
  obtain ⟨es⟩ := b
  cases j with
  | object ms =>
    have hmembers : Value.ofMembers id ms = .ok es ↔
        Value.entriesToJson es = ms ∧ ∀ e ∈ es, e.2.Readable :=
      Value.ofMembers_eq_ok_iff fun m _ path v => Value.ofJson_eq_ok_iff
    rw [ofJson, bind_eq_ok_iff, Value.readable_bundle_iff]
    constructor
    · rintro ⟨es', hes, h⟩
      split at h
      · next b hb =>
        obtain ⟨hk, rfl⟩ := ofEntries?_eq_ok_iff.1 hb
        cases h
        obtain ⟨hj, hr⟩ := hmembers.1 hes
        exact ⟨by rw [toJson, hj], hk, hr⟩
      · cases h
    · rintro ⟨hj, hk, hr⟩
      refine ⟨es, hmembers.2 ⟨Json.Tree.object.inj hj, hr⟩, ?_⟩
      rw [ofEntries?_eq_ok_iff.2 ⟨hk, rfl⟩]
  | _ => exact ⟨nofun, fun h => nomatch h.1⟩

theorem parse_eq_ok_iff {text : String} {b : Bundle} :
    parse text = .ok b ↔ Json.read? text = some b.toJson ∧ (Value.bundle b.entries).Readable := by
  unfold parse
  cases Json.read? text with
  | none => exact ⟨nofun, fun h => nomatch h.1⟩
  | some j =>
    rw [ofJson_eq_ok_iff, Option.some.injEq]
    exact and_congr_left fun _ => eq_comm

theorem read?_render_toJson {b : Bundle} (h : b.toJson.depth ≤ Json.depthLimit) :
    Json.read? b.toJson.render = some b.toJson :=
  Json.read?_render (Value.wordless_toJson (.bundle b.entries)) h

/-- Printing and reading are inverse: a bundle with unique keys, no empty list of choices and no deeper
nesting than a text may have is read back from its text, every bundle that was read is such, and its text
has the tree of the one it was read from. -/
theorem parse_render :
    (∀ b : Bundle, b.KeysUnique → b.Everywhere (· ≠ .choices []) → b.toJson.depth ≤ Json.depthLimit →
      parse b.toJson.render = .ok b) ∧
    ∀ text b, parse text = .ok b →
      b.KeysUnique ∧ b.Everywhere (· ≠ .choices []) ∧ b.toJson.depth ≤ Json.depthLimit ∧
        Json.read? text = some b.toJson ∧ Json.read? b.toJson.render = some b.toJson ∧
        parse b.toJson.render = .ok b := by
  refine ⟨fun b hu hc hd => parse_eq_ok_iff.2 ⟨read?_render_toJson hd, hu, hc⟩, fun text b h => ?_⟩
  obtain ⟨hread, hr⟩ := parse_eq_ok_iff.1 h
  have hd := Json.depth_le_of_read? hread
  have hback := read?_render_toJson hd
  exact ⟨hr.keysUnique, hr.choices_ne_nil, hd, hread, hback, parse_eq_ok_iff.2 ⟨hback, hr⟩⟩

theorem parse_render_planner : planner.KeysUnique ∧ planner.Everywhere (· ≠ .choices []) ∧
    planner.toJson.depth ≤ Json.depthLimit ∧ parse planner.toJson.render = .ok planner := by
  have hc : planner.Everywhere (· ≠ .choices []) := by
    simp [planner, Everywhere, Value.everywhere_bundle_iff]
  have hd : planner.toJson.depth ≤ Json.depthLimit := by decide +kernel
  exact ⟨planner_keysUnique, hc, hd, parse_render.1 planner planner_keysUnique hc hd⟩

end Bundle

end TripLocale
