/-
What the service writes: one answer on a line of its own for each line of text that is not blank, up to the
first line that is no text, where it fails (`serve_framing`).

An answer is printed without control characters, so that its line ends at the first line feed. All that is
answered consists of strings, arrays and objects, so the line is read back as the object that was printed
(`Response.read?_render`). The answers to a line depend on no other line, so a text that ends its last line can
be served by itself, before what follows it.
-/
import TripLocale.Proofs.Bundle.RoundTrip
import TripLocale.Proofs.Json.Printable
import TripLocale.Proofs.Text.Lines
import TripLocale.Service.Serve

namespace TripLocale

open TripLocale.Text (Bytes)

/-! ## Texts on lines -/

namespace Text

/-- The texts of lines before the first that is no text. -/
def texts (ls : List Bytes) : List String :=
  ((ls.map decode?).takeWhile Option.isSome).filterMap id

theorem texts_cons_of_none {line : Bytes} (h : decode? line = none) (ls : List Bytes) :
    texts (line :: ls) = [] := by
  simp [texts, h]

theorem texts_cons_of_some {line : Bytes} {t : String} (h : decode? line = some t) (ls : List Bytes) :
    texts (line :: ls) = t :: texts ls := by
  simp [texts, h]

/-- What is asked on lines: the texts without blanks around them, where something is left. -/
def requests (ls : List Bytes) : List String := ((texts ls).map trim).filter fun t => !t.isEmpty

/-- Texts without line feeds are found again between the line feeds behind them. -/
theorem splitOn_join {ts : List String} (h : ∀ t ∈ ts, '\n' ∉ t.toList) :
    (String.join (ts.map (· ++ "\n"))).toList.splitOn '\n' = ts.map String.toList ++ [[]] := by
  induction ts with
  | nil => rfl
  | cons t ts ih =>
    obtain ⟨ht, hts⟩ := List.forall_mem_cons.1 h
    have hjoin : (String.join ((t :: ts).map (· ++ "\n"))).toList =
        t.toList ++ '\n' :: (String.join (ts.map (· ++ "\n"))).toList := by
      simp
    rw [hjoin, List.splitOn_append_cons_self_of_not_mem ht, ih hts]
    rfl

end Text

/-! ## Answers -/

theorem Target.wordless_toJson (r : Target) : r.toJson.Wordless := by
  cases r with
  | value v => exact v.wordless_toJson
  | choice c => exact Json.wordless_ofTexts [c.value, c.label]
  | text t => exact Json.wordless_string t

/-- The printed answer is read back as an object with the path and either a value or an error text. It is read as
a draft, since a value may be deeper than `Json.read?` takes. -/
theorem Response.read?_render {r : Response} (h : ∀ v, r.outcome = .ok v → v.Wordless) :
    (∃ v : Json, r.toJson = .object [("path", .string r.path), ("value", v)] ∧
      Json.Draft.read? r.toJson.render =
        some (.object [(some "path", .string (some r.path)), (some "value", v.draft)])) ∨
    ∃ e, r.toJson = .object [("path", .string r.path), ("error", .string e)] ∧
      Json.Draft.read? r.toJson.render =
        some (.object [(some "path", .string (some r.path)), (some "error", .string (some e))]) := by
  rw [Response.toJson]
  cases ho : r.outcome with
  | ok v =>
    have hwordless : Json.Wordless (.object [("path", .string r.path), ("value", v)]) := by simp [h v ho]
    exact .inl ⟨v, rfl, Json.Draft.read?_render hwordless⟩
  | error e =>
    have hwordless : Json.Wordless (.object [("path", .string r.path), ("error", .string e.message)]) := by simp
    exact .inr ⟨e.message, rfl, Json.Draft.read?_render hwordless⟩

namespace Bundle

variable {b : Bundle} {separator : String}

theorem wordless_answerValue {path : String} {j : Json} (h : b.answerValue separator path = .ok j) :
    j.Wordless := by
  unfold answerValue at h
  split at h
  · next r _ =>
    cases h
    exact Json.wordless_settled r.wordless_toJson
  · cases h

theorem wordless_answerKeys {path : String} {j : Json} (h : b.answerKeys separator path = .ok j) :
    j.Wordless := by
  obtain ⟨s, -, rfl⟩ := map_eq_ok_iff.1 h
  exact Json.wordless_ofTexts s.keys

theorem wordless_answerFlat (top : String) : (b.answerFlat separator top).Wordless := by
  rw [answerFlat, Json.wordless_object_iff]
  intro _ hkept
  obtain ⟨e, -, rfl⟩ := List.mem_map.1 (Json.mem_of_mem_withoutRepeats hkept)
  exact Json.wordless_string e.2

theorem wordless_answerCode {number : String} {j : Json} (h : b.answerCode number = .ok j) : j.Wordless := by
  unfold answerCode at h
  split at h
  · cases h
  split at h
  · cases h
  split at h
  · next t _ =>
    cases h
    exact Json.wordless_string t
  · cases h

/-- What is answered consists of strings, arrays and objects. -/
theorem wordless_of_respond {request : Request} {j : Json} (h : (b.respond separator request).outcome = .ok j) :
    j.Wordless := by
  cases request with
  | value path => exact wordless_answerValue h
  | keys path => exact wordless_answerKeys h
  | flat top =>
    cases h
    exact wordless_answerFlat top
  | code number => exact wordless_answerCode h

/-- The answers to the requests on lines. -/
def answers (b : Bundle) (separator : String) (ls : List Bytes) : List Response :=
  (Text.requests ls).map fun t => b.respond separator (Request.parse t)

/-- The answers are written in order, each on a line of its own. -/
theorem serveLines_output (ls : List Bytes) :
    (b.serveLines separator ls).output =
      String.join ((b.answers separator ls).map fun r => r.toJson.render ++ "\n") := by
  induction ls with
  | nil => rfl
  | cons line ls ih =>
    rw [serveLines]
    cases ht : Text.decode? line with
    | none => simp [answers, Text.requests, Text.texts_cons_of_none ht]
    | some t =>
      simp only [answers, Text.requests, Text.texts_cons_of_some ht] at ih ⊢
      by_cases hblank : (Text.trim t).isEmpty = true
      · simp [answerLine, hblank, ih]
      · simp [answerLine, hblank, ih, Response.line]

theorem serveLines_failed_iff {ls : List Bytes} :
    (b.serveLines separator ls).failed = true ↔ ∃ line ∈ ls, Text.decode? line = none := by
  induction ls with
  | nil => simp [serveLines]
  | cons line ls ih =>
    rw [serveLines]
    cases ht : Text.decode? line with
    | none => simp [ht]
    | some t => simp [ht, ih]

/-- Lines that are texts are served apart from the lines behind them. -/
theorem serveLines_append {front : List Bytes} (h : ∀ line ∈ front, (Text.decode? line).isSome = true)
    (back : List Bytes) :
    b.serveLines separator (front ++ back) =
      ⟨(b.serveLines separator front).output ++ (b.serveLines separator back).output,
        (b.serveLines separator back).failed⟩ := by
  induction front with
  | nil => simp [serveLines]
  | cons line front ih =>
    obtain ⟨hline, hfront⟩ := List.forall_mem_cons.1 h
    obtain ⟨t, ht⟩ := Option.isSome_iff_exists.1 hline
    simp only [List.cons_append, serveLines, ht, ih hfront, String.append_assoc]

/-- The service answers each line of text that is not blank, in order, with one line that holds one JSON
object and no control character: the line is read back as the path with either the value or the error text. The
service fails exactly when some line is no text, and what it wrote for the lines before stands. Text that ends
its last line is served independently of what follows. -/
theorem serve_framing (b : Bundle) (separator : String) :
    (∀ input, (∀ ls, Text.IsLines input ls ↔ Text.lines input = ls) ∧
      let answers := b.answers separator (Text.lines input)
      let transcript := b.serve separator input
      transcript.output = String.join (answers.map fun r => r.toJson.render ++ "\n") ∧
      (∀ r ∈ answers, (∀ c ∈ r.toJson.render.toList, 0x20 ≤ c.toNat) ∧
        ((∃ v : Json, r.toJson = .object [("path", .string r.path), ("value", v)] ∧
          Json.Draft.read? r.toJson.render =
            some (.object [(some "path", .string (some r.path)), (some "value", v.draft)])) ∨
        ∃ e, r.toJson = .object [("path", .string r.path), ("error", .string e)] ∧
          Json.Draft.read? r.toJson.render =
            some (.object [(some "path", .string (some r.path)), (some "error", .string (some e))]))) ∧
      transcript.output.toList.splitOn '\n' =
        answers.map (fun r => r.toJson.render.toList) ++ [[]] ∧
      (transcript.failed = true ↔ ∃ line ∈ Text.lines input, Text.decode? line = none)) ∧
    ∀ front, (Text.decode? front).isSome = true → front.getLast? = some Text.lineFeed → ∀ back,
      b.serve separator (front ++ back) =
        ⟨(b.serve separator front).output ++ (b.serve separator back).output,
          (b.serve separator back).failed⟩ := by
  refine ⟨fun input => ⟨fun _ => Text.isLines_iff, serveLines_output _, fun r hr =>
    ⟨fun c hc => Json.space_le_of_mem_render hc, ?_⟩, ?_, serveLines_failed_iff⟩,
    fun front htext hend back => ?_⟩
  · obtain ⟨t, -, rfl⟩ := List.mem_map.1 hr
    exact Response.read?_render fun _ => wordless_of_respond
  · have hplain : ∀ t ∈ (b.answers separator (Text.lines input)).map fun r => r.toJson.render,
        '\n' ∉ t.toList := by
      rw [List.forall_mem_map]
      intro r _ hmem
      exact absurd (Json.space_le_of_mem_render hmem) (by decide)
    have hsplit := Text.splitOn_join hplain
    rw [List.map_map, List.map_map] at hsplit
    rw [serve, serveLines_output]
    exact hsplit
  · rw [serve, Text.lines_append hend, serveLines_append (Text.isSome_decode?_of_mem_lines htext)]
    rfl

/-- A request for the text `ok`, in front of a byte that is no text. -/
theorem serve_framing_ok :
    let front : Bytes := [111, 107, 10]
    (Text.decode? front).isSome = true ∧ front.getLast? = some Text.lineFeed ∧
      planner.serve "." (front ++ [0xff]) =
        ⟨"\x7b\"path\":\"ok\",\"value\":\"OK\"\x7d\n", true⟩ := by
  intro front
  have htext : (Text.decode? front).isSome = true := by decide +kernel
  have hend : front.getLast? = some Text.lineFeed := rfl
  refine ⟨htext, hend, ?_⟩
  rw [(serve_framing planner ".").2 front htext hend [0xff]]
  decide +kernel

end Bundle

end TripLocale
