/-
Lookups compose: where a path leads to a section, looking up a longer path is looking up the rest in that section
(`lookup_append`). Nothing but the place in the text differs: a failure names the longer path, and its parent stands
behind the path of the section.

The separator between the two must not overlap itself, so that the longer path is cut where the two are put
together (`parse_append`), and the rest must begin with a key, since only the first chunk of a path may open with
a bracket. Then the walk goes on from the section as it would from a root (`follow_append`, `follow_behind`).
-/
import TripLocale.Proofs.Bundle.FailedLookup
import TripLocale.Proofs.KeyPath.Syntax

namespace TripLocale

open Text

/-! ## Paths put together -/

/-- The same error, of another path. -/
def KeyPathError.ofPath (path : String) : KeyPathError → KeyPathError
  | .empty => .empty
  | .chunk _ fault => .chunk path fault

namespace KeyPath

/-- A chunk that does not open with a bracket reads the same wherever it stands. -/
theorem readChunk_of_not_open {chunk : List Char} (h : chunk.head? ≠ some '[') :
    readChunk true chunk = readChunk false chunk := by
  obtain ⟨name, rest, rfl, hn, hr⟩ := exists_name chunk
  rw [readChunk_append true hn hr, readChunk_append false hn hr]
  by_cases he : name = []
  · subst he
    -- without a key the chunk is empty, as what follows the key is nothing or opens with a bracket
    have hnil : rest = [] := by
      cases rest with
      | nil => rfl
      | cons c rest => exact absurd (congrArg some (hr c rfl)) h
    simp [hnil]
  · simp [he]

theorem readChunks_append (front back : List (List Char)) :
    readChunks (front ++ back) = (do let a ← readChunks front; let b ← readChunks back; return a ++ b) := by
  induction front with
  | nil => exact (bind_pure (readChunks back)).symm
  | cons c front ih => simp only [List.cons_append, readChunks, ih, bind_assoc, pure_bind, List.append_assoc]

theorem readAll_append {front : List (List Char)} (h : front ≠ []) (back : List (List Char)) :
    readAll (front ++ back) = (do let a ← readAll front; let b ← readChunks back; return a ++ b) := by
  obtain ⟨c, front, rfl⟩ := List.exists_cons_of_ne_nil h
  simp only [List.cons_append, readAll, readChunks_append, bind_assoc, pure_bind, List.append_assoc]

/-- Chunks of a text that does not open with a bracket read the same behind others. -/
theorem readChunks_splitOn {sep cs : List Char} (h : cs.head? ≠ some '[') :
    readChunks (splitOn sep cs) = readAll (splitOn sep cs) := by
  obtain ⟨-, hjoin⟩ := splitOn_eq_iff.1 (rfl : splitOn sep cs = splitOn sep cs)
  obtain ⟨c, chunks, hc⟩ := List.exists_cons_of_ne_nil (splitOn_ne_nil sep cs)
  rw [hc] at hjoin ⊢
  have hopen : c.head? ≠ some '[' := by
    intro hc'
    obtain ⟨c, rfl⟩ : ∃ c', c = '[' :: c' := by
      cases c <;> simp_all
    apply h
    rw [← hjoin]
    cases chunks <;> simp [List.intercalate]
  rw [readChunks, readAll, readChunk_of_not_open hopen]

/-- A path and the rest behind a separator are read one after the other, and what is wrong with the rest is
wrong with both together. -/
theorem parse_append {separator path rest : String} {p : KeyPath} (hs : separator ≠ "")
    (hb : Borderless separator.toList) (hp : parse path separator = .ok p) (hne : rest ≠ "")
    (hopen : rest.toList.head? ≠ some '[') :
    parse (path ++ separator ++ rest) separator =
      match parse rest separator with
      | .ok q => .ok ⟨p.segments ++ q.segments⟩
      | .error e => .error (e.ofPath (path ++ separator ++ rest)) := by
  have hsep : separator.toList ≠ [] := by simpa using hs
  have hread : readAll (splitOn separator.toList (path ++ separator ++ rest).toList) =
      (do let b ← readAll (splitOn separator.toList rest.toList); return p.segments ++ b) := by
    rw [String.toList_append, String.toList_append, hb.splitOn_append hsep,
      readAll_append (splitOn_ne_nil _ _), (parse_eq_ok_iff_readAll.1 hp).2, readChunks_splitOn hopen]
    rfl
  unfold parse
  rw [if_neg (by simp [hne]), if_neg (by simpa using hne), hread]
  cases readAll (splitOn separator.toList rest.toList) <;> rfl

/-- A path that does not open with a bracket begins with a key. -/
theorem exists_key_of_parse {separator path : String} {p : KeyPath} (h : parse path separator = .ok p)
    (hopen : path.toList.head? ≠ some '[') : ∃ k back, p = ⟨.key k :: back⟩ ∧ k ≠ "" := by
  obtain ⟨hw, rfl⟩ := parse_eq_ok_iff.1 h
  obtain ⟨segments⟩ := p
  obtain ⟨s, back, rfl⟩ := List.exists_cons_of_ne_nil hw.ne_nil
  have hs : s.WellFormed := hw.wellFormed s (List.mem_cons_self ..)
  cases s with
  | key k => exact ⟨k, back, rfl, hs.1⟩
  | index ds =>
    rw [toList_render_cons hs] at hopen
    exact absurd rfl hopen

end KeyPath

/-! ## Walks put together -/

/-- More text in front of a path that is not empty stays in front. -/
theorem Segment.appendTo_append (s : Segment) (front : String) {out : String} (separator : String)
    (h : out ≠ "") : s.appendTo (front ++ out) separator = front ++ s.appendTo out separator := by
  have hne : out.isEmpty = false := String.isEmpty_eq_false_iff.2 h
  have hne' : (front ++ out).isEmpty = false := by simp [h]
  cases s with
  | key k => simp [appendTo, hne, hne', String.append_assoc]
  | index ds => simp [appendTo, String.append_assoc]

/-- The same failure in a lookup of `path` that passes `front` on its way: the parent stands behind it. -/
def LookupError.behind (path front : String) : LookupError → LookupError
  | badPath e => badPath (e.ofPath path)
  | missingKey _ segment => missingKey path segment
  | notAContainer _ parent kind => notAContainer path (front ++ parent) kind
  | indexOutOfRange _ parent segment size => indexOutOfRange path (front ++ parent) segment size

namespace Target

variable {path rest separator walked : String}

theorem follow_append {r t : Target} {front : List Segment} (h : r.reach front = .ok t)
    (back : List Segment) :
    follow path separator walked r (front ++ back) =
      follow path separator (front.foldl (fun out s => s.appendTo out separator) walked) t back := by
  induction front generalizing r walked with
  | nil =>
    cases h
    rfl
  | cons s front ih =>
    rw [reach_cons] at h
    obtain ⟨u, hs, h⟩ := bind_eq_ok_iff.1 h
    rw [List.cons_append, follow, hs]
    exact ih h

/-- A walk that has begun goes on alike behind more text. -/
theorem follow_behind (front : String) (hw : walked ≠ "") (r : Target) (segments : List Segment) :
    follow path separator (front ++ walked) r segments =
      (follow rest separator walked r segments).mapError (.behind path front) := by
  induction segments generalizing r walked with
  | nil => rfl
  | cons s segments ih =>
    unfold follow
    cases r.step s with
    | ok u =>
      have hne : s.appendTo walked separator ≠ "" := by
        rw [ne_eq, ← String.toList_eq_nil_iff, KeyPath.toList_appendTo s separator hw]
        simp [hw]
      show follow path separator (s.appendTo (front ++ walked) separator) u segments = _
      rw [s.appendTo_append front separator hw]
      exact ih hne u
    | error stuck => cases stuck <;> rfl

/-- From a section a walk that begins with a key goes on as from a root. -/
theorem follow_key (hw : walked ≠ "") {k : String} (hk : k ≠ "") (es : List (String × Value))
    (segments : List Segment) :
    follow path separator walked (value (.bundle es)) (.key k :: segments) =
      (follow rest separator "" (value (.bundle es)) (.key k :: segments)).mapError
        (.behind path (walked ++ separator)) := by
  have hne : walked.isEmpty = false := String.isEmpty_eq_false_iff.2 hw
  unfold follow
  rw [step_bundle]
  cases Bundle.child? ⟨es⟩ (Segment.key k).text with
  | none => rfl
  | some v =>
    show follow path separator ((Segment.key k).appendTo walked separator) (value v) segments = _
    rw [Segment.appendTo, hne]
    exact follow_behind (walked ++ separator) hk (value v) segments

end Target

/-! ## Lookups put together -/

namespace Bundle

/-- Where a path leads to a section, a lookup that goes on from it behind the separator is a lookup in the
section. -/
theorem lookup_append {b c : Bundle} {separator path rest : String} (hs : separator ≠ "")
    (hb : Borderless separator.toList)
    (hp : b.lookup path separator = .ok (.value (.bundle c.entries)))
    (hne : rest ≠ "") (hopen : rest.toList.head? ≠ some '[') :
    b.lookup (path ++ separator ++ rest) separator =
      (c.lookup rest separator).mapError (.behind (path ++ separator ++ rest) (path ++ separator)) := by
  obtain ⟨p, hparse, hreach⟩ := lookup_eq_ok_iff.1 hp
  obtain ⟨hw, hrender⟩ := KeyPath.parse_eq_ok_iff.1 hparse
  have hjoin := KeyPath.parse_append hs hb hparse hne hopen
  cases hq : KeyPath.parse rest separator with
  | error e =>
    rw [hq] at hjoin
    rw [lookup, hjoin, lookup, hq]
    rfl
  | ok q =>
    rw [hq] at hjoin
    obtain ⟨k, back, rfl, hk⟩ := KeyPath.exists_key_of_parse hq hopen
    have hpath : path ≠ "" := hrender ▸ hw.render_ne_empty
    rw [lookup_of_parse hjoin, lookup_of_parse hq, Target.follow_append hreach]
    show Target.follow _ _ (p.render separator) _ _ = _
    rw [hrender]
    exact Target.follow_key hpath hk c.entries back

/-- The fourth month behind `time`, with a separator of two characters. -/
theorem lookup_append_month :
    Borderless "->".toList ∧
      planner.lookup "time" "->" = .ok (.value (.bundle [("months", .list ["Sty", "Lut"])])) ∧
      planner.lookup "time->months[3]" "->" =
        .error (.indexOutOfRange "time->months[3]" "time->months" "3" 2) := by
  have hb : Borderless "->".toList := by decide
  have hp : planner.lookup "time" "->" = .ok (.value (.bundle [("months", .list ["Sty", "Lut"])])) := by
    decide +kernel
  have hq : lookup ⟨[("months", .list ["Sty", "Lut"])]⟩ "months[3]" "->" =
      .error (.indexOutOfRange "months[3]" "months" "3" 2) := by decide +kernel
  have h : planner.lookup ("time" ++ "->" ++ "months[3]") "->" = _ :=
    lookup_append (by decide) hb hp (by decide) (by decide)
  rw [hq] at h
  exact ⟨hb, hp, h⟩

end Bundle

end TripLocale
