/-
Paths and their texts, there and back. Rendering a parsed path gives its text again (`render_of_parse`), so a
text is parsed in one way and segments come from one text. A list of segments is parsed again from what it
renders to exactly when each segment can be written and the separator first occurs at the end of each chunk
(`parse_render_iff`); that no key contains the separator is not enough.
-/
import TripLocale.Proofs.KeyPath.Render

namespace TripLocale.KeyPath

open Text

/-- A parsed path renders to the text it was parsed from, so no two texts parse as the same path. -/
theorem render_of_parse (separator : String) :
    (∀ path p, parse path separator = .ok p → p.render separator = path) ∧
    ∀ path path' p, parse path separator = .ok p → parse path' separator = .ok p → path = path' := by
  have restored : ∀ path p, parse path separator = .ok p → p.render separator = path :=
    fun path p h => (parse_eq_ok_iff.1 h).2
  refine ⟨restored, fun path path' p h h' => ?_⟩
  rw [← restored path p h, restored path' p h']

/-- With brackets in the separator: the brackets of the index are its own, the others cut. -/
theorem render_of_parse_brackets :
    parse "mode][on[0]" "][" = .ok ⟨[.key "mode", .key "on", .index "0"]⟩ ∧
      render ⟨[.key "mode", .key "on", .index "0"]⟩ "][" = "mode][on[0]" := by
  have h : parse "mode][on[0]" "][" = .ok ⟨[.key "mode", .key "on", .index "0"]⟩ := rfl
  exact ⟨h, (render_of_parse "][").1 _ _ h⟩

/-- The paths that parse again from what they render to: not empty, with well-formed segments, and such that
the separator cuts behind each chunk but the last and does not occur in the last. -/
theorem parse_render_iff {separator : String} (hs : separator ≠ "") (segments : List Segment) :
    parse (render ⟨segments⟩ separator) separator = .ok ⟨segments⟩ ↔
      segments ≠ [] ∧ (∀ s ∈ segments, s.WellFormed) ∧
        (∀ c ∈ (chunkTexts segments).dropLast, CutsBehind separator.toList c) ∧
        ∀ c ∈ (chunkTexts segments).getLast?, ¬ separator.toList <:+: c := by
  have hsep : separator.toList ≠ [] := by simpa using hs
  have hwritable : parse (render ⟨segments⟩ separator) separator = .ok ⟨segments⟩ ↔
      Writable separator ⟨segments⟩ := parse_eq_ok_iff.trans (and_iff_left rfl)
  rw [hwritable]
  constructor
  · rintro ⟨hw, hsplit⟩
    obtain ⟨hne, hcut, hlast⟩ := (isSplit_iff hsep).1 hsplit
    exact ⟨fun e => hne (chunkTexts_eq_nil_iff.2 e), hw, hcut, hlast⟩
  · rintro ⟨hne, hw, hcut, hlast⟩
    exact ⟨hw, (isSplit_iff hsep).2 ⟨fun e => hne (chunkTexts_eq_nil_iff.1 e), hcut, hlast⟩⟩

/-- A key that ends like the separator begins is cut too early, though it does not contain the separator. -/
theorem parse_render_overlap :
    "::" ≠ "" ∧
      parse (render ⟨[.key "time", .index "0", .key "a:b"]⟩ "::") "::" =
        .ok ⟨[.key "time", .index "0", .key "a:b"]⟩ ∧
      parse (render ⟨[.key "a:", .key "b"]⟩ "::") "::" ≠ .ok ⟨[.key "a:", .key "b"]⟩ := by
  have hs : "::" ≠ "" := by decide
  have hw : ∀ s ∈ [Segment.key "time", .index "0", .key "a:b"], s.WellFormed := by
    simp [Segment.WellFormed, Char.isDigit]
  have htexts : chunkTexts [.key "time", .index "0", .key "a:b"] = ["time[0]".toList, "a:b".toList] := rfl
  refine ⟨hs, (parse_render_iff hs _).2 ⟨List.cons_ne_nil _ _, hw, ?_, ?_⟩, fun h => ?_⟩
  · rw [htexts]
    decide
  · rw [htexts]
    decide
  · obtain ⟨-, -, hcut, -⟩ := (parse_render_iff hs _).1 h
    exact hcut "a:".toList (by decide) 1 (by decide) (by decide)

end TripLocale.KeyPath
