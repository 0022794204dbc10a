/-
The answers to requests for a value and for keys (`respond_value_keys`): the value at a path is answered with the
compact JSON of what a lookup finds there, and its keys are the names of that object.

An answer is settled before it is written: an object keeps each name once. With unique keys that changes nothing
(`Target.settled_toJson`), so every member is kept, in order.
-/
import TripLocale.Proofs.Bundle.Walk
import TripLocale.Proofs.Json.Tree
import TripLocale.Service.Respond

namespace TripLocale

/-! ## Settled values -/

namespace Value

/-- With unique keys the JSON of a value has no name to drop. -/
theorem settled_toJson {v : Value} (hu : v.KeysUnique) : v.toJson.settled = v.toJson := by
  induction v with
  | text t => rfl
  | list items => exact Json.settled_ofTexts items
  | choices cs =>
    refine Json.settled_array fun j hj => ?_
    obtain ⟨c, -, rfl⟩ := List.mem_map.1 hj
    exact Json.settled_ofTexts _
  | bundle es ih =>
    obtain ⟨hk, hes⟩ := keysUnique_bundle_iff.1 hu
    rw [toJson, entriesToJson_eq_map]
    refine Json.settled_object ?_ fun m hm => ?_
    · rw [List.map_map]
      exact hk
    · obtain ⟨e, he, rfl⟩ := List.mem_map.1 hm
      exact ih e he (hes e he)

end Value

namespace Target

theorem settled_toJson {r : Target} (hu : r.Everywhere fun v => (v.entries.map (·.1)).Nodup) :
    r.toJson.settled = r.toJson := by
  cases r with
  | value v => exact Value.settled_toJson (Value.keysUnique_iff.2 hu)
  | choice c => exact Json.settled_ofTexts _
  | text t => rfl

/-- What has keys is a section, and only its JSON is an object. -/
theorem section_cases (r : Target) :
    (∃ es, r = value (.bundle es)) ∨
      (r.value?.bind Value.bundle? = none ∧ ∀ members, r.toJson ≠ .object members) := by
  match r with
  | value (.bundle es) => exact .inl ⟨es, rfl⟩
  | value (.text _) => exact .inr ⟨rfl, fun _ => nofun⟩
  | value (.list _) => exact .inr ⟨rfl, fun _ => nofun⟩
  | value (.choices _) => exact .inr ⟨rfl, fun _ => nofun⟩
  | choice _ => exact .inr ⟨rfl, fun _ => nofun⟩
  | text _ => exact .inr ⟨rfl, fun _ => nofun⟩

end Target

/-! ## Texts of answers -/

namespace Json

/-- The text of an answer with a value. -/
theorem render_value (path : String) (j : Json) :
    render (.object [("path", .string path), ("value", j)]) =
      "\x7b\"path\":" ++ render (.string path) ++ ",\"value\":" ++ render j ++ "\x7d" := by
  have hpath : stringChars "path" = ['"', 'p', 'a', 't', 'h', '"'] := by decide
  have hvalue : stringChars "value" = ['"', 'v', 'a', 'l', 'u', 'e', '"'] := by decide
  rw [← String.toList_inj]
  simp [render, tokens, tokensMembers, Token.chars, hpath, hvalue]

theorem ofTexts_inj {ts us : List String} (h : ofTexts ts = ofTexts us) : ts = us :=
  List.map_injective_iff.2 (fun _ _ => Tree.string.inj) (Tree.array.inj h)

end Json

/-! ## Answers -/

namespace Bundle

variable {b : Bundle} {separator path : String}

theorem answerValue_of_ok (hu : b.KeysUnique) {r : Target} (h : b.lookup path separator = .ok r) :
    b.answerValue separator path = .ok r.toJson := by
  obtain ⟨p, -, hr⟩ := lookup_eq_ok_iff.1 h
  rw [answerValue, h]
  dsimp only
  rw [Target.settled_toJson (hu.root.reach hr)]

theorem answerValue_of_error {e : LookupError} (h : b.lookup path separator = .error e) :
    b.answerValue separator path = .error (.lookup e) := by
  rw [answerValue, h]

theorem answerKeys_of_ok (hp : path ≠ "") {r : Target} (h : b.lookup path separator = .ok r) :
    b.answerKeys separator path = match r.value?.bind Value.bundle? with
      | some s => .ok (Json.ofTexts s.keys)
      | none => .error (.notABundle path r.kind) := by
  rw [answerKeys, sectionAt, if_neg (by simpa using hp), h]
  cases hs : r.value?.bind Value.bundle? <;> simp only [hs] <;> rfl

theorem answerKeys_of_error (hp : path ≠ "") {e : LookupError} (h : b.lookup path separator = .error e) :
    b.answerKeys separator path = .error (.lookup e) := by
  rw [answerKeys, sectionAt, if_neg (by simpa using hp), h]
  rfl

/-- The keys at a path are the names of the object that is the value there. -/
theorem answerKeys_eq_ok_iff (hu : b.KeysUnique) (hp : path ≠ "") {j : Json} :
    b.answerKeys separator path = .ok j ↔
      ∃ members, b.answerValue separator path = .ok (.object members) ∧
        Json.ofTexts (members.map (·.1)) = j := by
  cases h : b.lookup path separator with
  | error e =>
    rw [answerKeys_of_error hp h, answerValue_of_error h]
    exact ⟨nofun, fun ⟨_, he, _⟩ => nomatch he⟩
  | ok r =>
    rw [answerKeys_of_ok hp h, answerValue_of_ok hu h]
    rcases r.section_cases with ⟨es, rfl⟩ | ⟨hnone, hno⟩
    · rw [Target.toJson_bundle]
      have hnames : Json.ofTexts ((es.map fun e => (e.1, e.2.toJson)).map (·.1)) = Json.ofTexts (keys ⟨es⟩) := by
        rw [List.map_map]
        rfl
      constructor
      · intro he
        exact ⟨_, rfl, hnames.trans (Except.ok.inj he)⟩
      · rintro ⟨members, he, rfl⟩
        cases he
        exact congrArg Except.ok hnames.symm
    · rw [hnone]
      refine ⟨nofun, ?_⟩
      rintro ⟨members, he, -⟩
      exact absurd (Except.ok.inj he) (hno members)

/-- With unique keys the answer to a path holds the compact JSON of what a lookup finds there, every member kept,
or the text of its error. The keys of the path are answered exactly when this is an object, and are its names in
order; otherwise they are answered with an error, which is the same where the path leads nowhere. -/
theorem respond_value_keys (hu : b.KeysUnique) (separator : String) (hp : path ≠ "") :
    let answer := b.respond separator (.value path)
    let keys := b.respond separator (.keys path)
    (∀ r, b.lookup path separator = .ok r →
      answer.toJson = .object [("path", .string path), ("value", r.toJson)] ∧
      answer.line = "\x7b\"path\":" ++ Json.render (.string path) ++ ",\"value\":" ++ r.toJson.render ++ "\x7d") ∧
    (∀ e, b.lookup path separator = .error e →
      answer.toJson = .object [("path", .string path), ("error", .string e.message)]) ∧
    (∀ ks, keys.outcome = .ok (Json.ofTexts ks) ↔
      ∃ members, answer.outcome = .ok (.object members) ∧ members.map (·.1) = ks) ∧
    ((∀ members, answer.outcome ≠ .ok (.object members)) → ∃ e, keys.outcome = .error e) ∧
    ∀ e, answer.outcome = .error e → keys = answer := by
  intro answer keys
  have hanswer : answer = ⟨path, b.answerValue separator path⟩ := rfl
  have hkeys : keys = ⟨path, b.answerKeys separator path⟩ := rfl
  rw [hanswer, hkeys]
  refine ⟨fun r h => ?_, fun e h => ?_, fun ks => ?_, fun hno => ?_, fun e he => ?_⟩
  · rw [answerValue_of_ok hu h]
    exact ⟨rfl, Json.render_value path r.toJson⟩
  · rw [answerValue_of_error h]
    rfl
  · rw [answerKeys_eq_ok_iff hu hp]
    refine exists_congr fun members => and_congr_right fun _ => ⟨Json.ofTexts_inj, congrArg Json.ofTexts⟩
  · cases hk : b.answerKeys separator path with
    | error e => exact ⟨e, rfl⟩
    | ok j =>
      obtain ⟨members, he, -⟩ := (answerKeys_eq_ok_iff hu hp).1 hk
      exact absurd he (hno members)
  · cases h : b.lookup path separator with
    | ok r =>
      rw [answerValue_of_ok hu h] at he
      cases he
    | error e => rw [answerValue_of_error h, answerKeys_of_error hp h]

/-- The value and the keys at `time`, and the one answer to both where nothing stands. -/
theorem respond_value_keys_time :
    planner.KeysUnique ∧ "time" ≠ "" ∧ "nowhere" ≠ "" ∧
      (planner.respond "." (.value "time")).line =
        "\x7b\"path\":\"time\",\"value\":\x7b\"months\":[\"Sty\",\"Lut\"]\x7d\x7d" ∧
      (planner.respond "." (.keys "time")).outcome = .ok (Json.ofTexts ["months"]) ∧
      planner.respond "." (.keys "nowhere") = planner.respond "." (.value "nowhere") := by
  have htime : "time" ≠ "" := by decide
  have hnowhere : "nowhere" ≠ "" := by decide
  have hlookup : planner.lookup "time" "." = .ok (.value (.bundle [("months", .list ["Sty", "Lut"])])) := by
    decide +kernel
  have hmissing : planner.lookup "nowhere" "." = .error (.missingKey "nowhere" "nowhere") := by decide +kernel
  obtain ⟨hvalue, -, hkeys, -, -⟩ := respond_value_keys planner_keysUnique "." htime
  obtain ⟨-, -, -, -, hboth⟩ := respond_value_keys planner_keysUnique "." hnowhere
  refine ⟨planner_keysUnique, htime, hnowhere, ?_, ?_, ?_⟩
  · rw [(hvalue _ hlookup).2]
    decide +kernel
  · exact (hkeys ["months"]).2 ⟨_, answerValue_of_ok planner_keysUnique hlookup, rfl⟩
  · exact hboth _ (answerValue_of_error hmissing)

end Bundle

end TripLocale
