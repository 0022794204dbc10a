/-
A flat answer replayed line by line (`flat_replay`): with a plain separator and plain keys the answer to `flat`
holds every text of the bundle once, under its full key; asking `flat` for a full key answers this text alone,
and a line that is the full key is answered with the text, unless its first word is a command.
-/
import Mathlib.Data.List.TakeWhile
import TripLocale.Proofs.Bundle.Below
import TripLocale.Proofs.Bundle.Walk
import TripLocale.Proofs.Json.Tree
import TripLocale.Service.Respond

namespace TripLocale

/-! ## Lines that ask for a path -/

namespace Text

/-- What stands before the first blank. -/
def firstWord (s : String) : String := String.ofList (s.toList.takeWhile fun c => !isBlank c)

theorem toList_firstWord (s : String) : (firstWord s).toList = s.toList.takeWhile fun c => !isBlank c :=
  String.toList_ofList

end Text

namespace Request

/-- No command stands at the head of the line: its first word is neither `keys` nor `flat`, and it is not
`code` with a blank behind it. -/
structure NoCommand (line : String) : Prop where
  not_keys : Text.firstWord line ≠ "keys"
  not_flat : Text.firstWord line ≠ "flat"
  not_code : ∀ c rest, Text.isBlank c = true → line.toList ≠ "code".toList ++ c :: rest

/-- The first word of a line, and the blanks that must stand before an argument. -/
theorem splitWord_spec {cs word argument : List Char} (h : splitWord cs = (word, argument)) :
    word = cs.takeWhile (fun c => !Text.isBlank c) ∧
      (argument ≠ [] → ∃ c rest, Text.isBlank c = true ∧ cs = word ++ c :: rest) := by
  unfold splitWord at h
  split at h
  · next front rest hcut =>
    cases h
    obtain ⟨c, hc, rfl, hfront⟩ := Text.cut?_eq_some hcut
    refine ⟨?_, fun _ => ⟨c, rest, hc, rfl⟩⟩
    rw [List.takeWhile_append_of_pos (by simpa using hfront), List.takeWhile_cons_of_neg (by simp [hc]),
      List.append_nil]
  · next hcut =>
    cases h
    have hall := Text.cut?_eq_none_iff.1 hcut
    exact ⟨(List.takeWhile_eq_self_iff.2 (by simpa using hall)).symm, fun hne => absurd rfl hne⟩

/-- A line without a command asks for the path that it is. -/
theorem NoCommand.parse_eq {line : String} (h : NoCommand line) : parse line = .value line := by
  unfold parse
  rcases hsplit : splitWord line.toList with ⟨word, argument⟩
  obtain ⟨hword, hblank⟩ := splitWord_spec hsplit
  rw [← Text.toList_firstWord] at hword
  have hk : word ≠ "keys".toList := fun e => h.not_keys (String.toList_inj.1 (hword.symm.trans e))
  have hf : word ≠ "flat".toList := fun e => h.not_flat (String.toList_inj.1 (hword.symm.trans e))
  have hc : ¬ (word = "code".toList && !argument.isEmpty) = true := by
    rw [Bool.and_eq_true, decide_eq_true_eq]
    rintro ⟨rfl, ha⟩
    obtain ⟨c, rest, hc, hl⟩ := hblank (by simpa using ha)
    exact h.not_code c rest hc hl
  dsimp only
  rw [if_neg hk, if_neg hf, if_neg hc]

end Request

/-! ## Answers -/

namespace Bundle

variable {separator : String} {b : Bundle}

/-- A text is answered to the path that leads to it. -/
theorem respond_value_of_text? {path t : String} {r : Target} (h : b.lookup path separator = .ok r)
    (ht : r.text? = some t) : b.respond separator (.value path) = ⟨path, .ok (.string t)⟩ := by
  rw [respond, answerValue, h]
  dsimp only
  rw [Target.toJson_of_text? ht]
  rfl

/-- The answer to `flat` is an object with one member for each text of the flat list, in order. For every
member, `flat` with its name answers it alone, and its name as a line answers the text. -/
theorem flat_replay (hs : KeyPath.PlainSeparator separator) (hp : b.KeysPlain separator)
    (hu : b.KeysUnique) (hf : b.ListsFit) :
    b.respond separator (.flat "") =
      ⟨"", .ok (.object ((b.flatten separator).map fun e => (e.1, .string e.2)))⟩ ∧
    ∀ key t, (key, t) ∈ b.flatten separator →
      b.respond separator (.flat key) = ⟨key, .ok (.object [(key, .string t)])⟩ ∧
      (Request.NoCommand key → b.respond separator (Request.parse key) = ⟨key, .ok (.string t)⟩) := by
  refine ⟨?_, fun key t h => ⟨?_, fun hc => ?_⟩⟩
  · have hnames : (((b.flatten separator).map fun e => (e.1, (.string e.2 : Json))).map (·.1)).Nodup := by
      rw [List.map_map]
      exact hp.nodup_flatten hs hu
    rw [respond, answerFlat, if_pos (by decide), Json.withoutRepeats_of_nodup hnames]
    rfl
  · obtain ⟨segments, hm, rfl⟩ := hp.mem_flatten_iff.1 h
    have hkey : flatKey separator segments ≠ "" :=
      (KeyPath.parse_eq_ok_iff.1 (hp.parse_flatKey hs hm)).1.render_ne_empty
    have hunder := hp.flattenUnder_of_mem_flatten hs hu h
    rw [respond, answerFlat, if_neg (by simpa using hkey), hunder]
    rfl
  · obtain ⟨segments, hm, rfl⟩ := hp.mem_flatten_iff.1 h
    obtain ⟨r, hr, ht⟩ := Target.reach_of_mem_leaves hu.root hf hm
    rw [hc.parse_eq]
    exact respond_value_of_text? (lookup_eq_ok_iff.2 ⟨_, hp.parse_flatKey hs hm, hr⟩) ht

theorem flat_replay_month :
    KeyPath.PlainSeparator "::" ∧ planner.KeysPlain "::" ∧ planner.KeysUnique ∧ planner.ListsFit ∧
      ("time::months[1]", "Lut") ∈ planner.flatten "::" ∧ Request.NoCommand "time::months[1]" ∧
      planner.respond "::" (.flat "time::months[1]") =
        ⟨"time::months[1]", .ok (.object [("time::months[1]", .string "Lut")])⟩ ∧
      planner.respond "::" (Request.parse "time::months[1]") = ⟨"time::months[1]", .ok (.string "Lut")⟩ := by
  have hs : KeyPath.PlainSeparator "::" := by decide
  have hp : planner.KeysPlain "::" := planner_keysPlain (by decide)
  have hm : ("time::months[1]", "Lut") ∈ planner.flatten "::" := by decide +kernel
  have hc : Request.NoCommand "time::months[1]" := ⟨by decide +kernel, by decide +kernel,
    fun c rest _ he => absurd (List.cons.inj he).1 (by decide)⟩
  obtain ⟨hflat, hline⟩ := (flat_replay hs hp planner_keysUnique planner_listsFit).2 _ _ hm
  exact ⟨hs, hp, planner_keysUnique, planner_listsFit, hm, hc, hflat, hline hc⟩

end Bundle

end TripLocale
