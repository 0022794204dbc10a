/-
Which texts parse as which paths: `parse path separator = .ok p` exactly when `p` renders to `path` and
`p.Writable separator` holds, that is, its segments are well formed and the separator cuts its text
between its chunks and nowhere else. So a parsed path renders to the text it came from, and so do its
beginnings (`Writable.of_append`).

`KeyPath.chunks` cuts a list of segments before every key; reading the texts of chunks is its inverse
(`readAll_eq_ok_iff`), and rendering joins these texts (`toList_render`).
-/
import TripLocale.Proofs.KeyPath.Chunk
import TripLocale.Proofs.Text.Split

namespace TripLocale

open Text

/-- A segment as it stands behind others: a key has the separator before it. -/
def Segment.behind (sep : List Char) (s : Segment) : List Char :=
  (if s.isIndex then [] else sep) ++ s.chars

namespace KeyPath

/-! ## Segments by chunks -/

/-- The segments of a path by chunks: a key begins a chunk, an index goes on with the one before it. -/
def chunks : List Segment → List (List Segment)
  | [] => []
  | s :: rest =>
    match rest with
    | .index _ :: _ => (chunks rest).modifyHead (s :: ·)
    | _ => [s] :: chunks rest

/-- The texts of the chunks. -/
def chunkTexts (segments : List Segment) : List (List Char) :=
  (chunks segments).map (·.flatMap Segment.chars)

/-- The segments do not open with an index. -/
def BeginsChunk (segments : List Segment) : Prop := ∀ s, segments.head? = some s → s.isIndex = false

theorem beginsChunk_nil : BeginsChunk [] := fun _ h => nomatch h

theorem chunks_cons {s : Segment} {rest : List Segment} (h : BeginsChunk rest) :
    chunks (s :: rest) = [s] :: chunks rest := by
  match rest with
  | [] => rfl
  | .key t :: rest => rfl
  | .index ds :: rest => cases h _ rfl

theorem chunks_append {s : Segment} {indexes tail : List Segment} (hi : ∀ r ∈ indexes, r.isIndex = true)
    (ht : BeginsChunk tail) : chunks (s :: indexes ++ tail) = (s :: indexes) :: chunks tail := by
  induction indexes generalizing s with
  | nil => exact chunks_cons ht
  | cons r indexes ih =>
    obtain ⟨hr, hri⟩ := List.forall_mem_cons.1 hi
    cases r with
    | key t => cases hr
    | index ds =>
      have hstep : chunks (s :: .index ds :: (indexes ++ tail)) =
          (chunks (.index ds :: indexes ++ tail)).modifyHead (s :: ·) := rfl
      rw [List.cons_append, List.cons_append, hstep, ih hri, List.modifyHead_cons]

theorem exists_indexes (segments : List Segment) :
    ∃ indexes tail, segments = indexes ++ tail ∧ (∀ r ∈ indexes, r.isIndex = true) ∧ BeginsChunk tail := by
  refine ⟨segments.takeWhile Segment.isIndex, segments.dropWhile Segment.isIndex,
    List.takeWhile_append_dropWhile.symm, List.all_eq_true.1 List.all_takeWhile, fun s hs => ?_⟩
  simpa [hs] using List.head?_dropWhile_not Segment.isIndex segments

theorem chunkTexts_cons (s : Segment) {rest : List Segment} (h : BeginsChunk rest) :
    chunkTexts (s :: rest) = s.chars :: chunkTexts rest := by
  rw [chunkTexts, chunks_cons h, List.map_cons, List.flatMap_singleton]
  rfl

theorem chunkTexts_cons_index (s : Segment) {r : Segment} (hr : r.isIndex = true) (rest : List Segment) :
    chunkTexts (s :: r :: rest) = (chunkTexts (r :: rest)).modifyHead (s.chars ++ ·) := by
  cases r with
  | key t => cases hr
  | index ds =>
    have hstep : chunks (s :: .index ds :: rest) = (chunks (.index ds :: rest)).modifyHead (s :: ·) := rfl
    rw [chunkTexts, hstep, chunkTexts]
    cases chunks (.index ds :: rest) <;> simp

theorem chunkTexts_eq_cons_iff {segments : List Segment} {c : List Char} {cs : List (List Char)} :
    chunkTexts segments = c :: cs ↔
      ∃ s indexes tail, segments = s :: indexes ++ tail ∧ (∀ r ∈ indexes, r.isIndex = true) ∧
        BeginsChunk tail ∧ (s :: indexes).flatMap Segment.chars = c ∧ chunkTexts tail = cs := by
  constructor
  · intro h
    cases segments with
    | nil => cases h
    | cons s segments =>
      obtain ⟨indexes, tail, rfl, hi, ht⟩ := exists_indexes segments
      rw [chunkTexts, ← List.cons_append, chunks_append hi ht, List.map_cons] at h
      obtain ⟨hc, hcs⟩ := List.cons.inj h
      exact ⟨s, indexes, tail, rfl, hi, ht, hc, hcs⟩
  · rintro ⟨s, indexes, tail, rfl, hi, ht, rfl, rfl⟩
    rw [chunkTexts, chunks_append hi ht, List.map_cons]
    rfl

/-! ## Reading chunks -/

/-- One chunk and those behind it read as segments in order. -/
theorem readChunk_bind_iff {first : Bool} {c : List Char} {cs : List (List Char)} {segments : List Segment}
    (ih : ∀ {segments}, readChunks cs = .ok segments ↔
      (∀ s ∈ segments, s.WellFormed) ∧ BeginsChunk segments ∧ chunkTexts segments = cs) :
    (do let a ← readChunk first c; let b ← readChunks cs; return a ++ b) = Except.ok segments ↔
      (∀ s ∈ segments, s.WellFormed) ∧ (first = false → BeginsChunk segments) ∧
        chunkTexts segments = c :: cs := by
  simp only [bind_eq_ok_iff, pure_eq_ok_iff, chunkTexts_eq_cons_iff]
  constructor
  · rintro ⟨a, ha, b, hb, rfl⟩
    obtain ⟨s, indexes, rfl, hw, hi, hf, hc⟩ := readChunk_eq_ok_iff.1 ha
    obtain ⟨hwb, htb, hb⟩ := ih.1 hb
    refine ⟨fun r hr => (List.mem_append.1 hr).elim (hw r) (hwb r), fun hff r hr => ?_,
      s, indexes, b, rfl, hi, htb, hc, hb⟩
    obtain rfl : s = r := Option.some.inj hr
    cases hs : s.isIndex with
    | false => rfl
    | true => cases hff.symm.trans (hf hs)
  · rintro ⟨hw, hf, s, indexes, tail, rfl, hi, ht, hc, hcs⟩
    have hwa : ∀ r ∈ s :: indexes, r.WellFormed := fun r hr => hw r (List.mem_append_left _ hr)
    have hwt : ∀ r ∈ tail, r.WellFormed := fun r hr => hw r (List.mem_append_right _ hr)
    refine ⟨s :: indexes, readChunk_eq_ok_iff.2 ⟨s, indexes, rfl, hwa, hi, fun hs => ?_, hc⟩,
      tail, ih.2 ⟨hwt, ht, hcs⟩, rfl⟩
    cases first with
    | true => rfl
    | false => cases (hf rfl s rfl).symm.trans hs

theorem chunkTexts_eq_nil_iff {segments : List Segment} : chunkTexts segments = [] ↔ segments = [] := by
  constructor
  · intro h
    cases segments with
    | nil => rfl
    | cons s segments =>
      obtain ⟨indexes, tail, rfl, hi, ht⟩ := exists_indexes segments
      rw [chunkTexts, ← List.cons_append, chunks_append hi ht] at h
      cases h
  · rintro rfl
    rfl

theorem readChunks_eq_ok_iff {cs : List (List Char)} {segments : List Segment} :
    readChunks cs = .ok segments ↔
      (∀ s ∈ segments, s.WellFormed) ∧ BeginsChunk segments ∧ chunkTexts segments = cs := by
  induction cs generalizing segments with
  | nil =>
    rw [chunkTexts_eq_nil_iff, readChunks, Except.ok.injEq, eq_comm]
    refine ⟨?_, fun h => h.2.2⟩
    rintro rfl
    exact ⟨List.forall_mem_nil _, beginsChunk_nil, rfl⟩
  | cons c cs ih =>
    rw [readChunks, readChunk_bind_iff ih]
    simp

/-- All chunks of a path read as the well-formed segments whose chunks they are. -/
theorem readAll_eq_ok_iff {cs : List (List Char)} {segments : List Segment} :
    readAll cs = .ok segments ↔ (∀ s ∈ segments, s.WellFormed) ∧ chunkTexts segments = cs := by
  cases cs with
  | nil =>
    rw [chunkTexts_eq_nil_iff, readAll, Except.ok.injEq, eq_comm]
    refine ⟨?_, fun h => h.2⟩
    rintro rfl
    exact ⟨List.forall_mem_nil _, rfl⟩
  | cons c cs =>
    rw [readAll, readChunk_bind_iff readChunks_eq_ok_iff]
    simp

/-! ## Rendering -/

theorem toList_appendTo (s : Segment) {out : String} (separator : String) (h : out ≠ "") :
    (s.appendTo out separator).toList = out.toList ++ s.behind separator.toList := by
  have hne : out.isEmpty = false := String.isEmpty_eq_false_iff.2 h
  cases s with
  | key t => simp [Segment.appendTo, Segment.behind, Segment.chars, Segment.isIndex, hne]
  | index ds => simp [Segment.appendTo, Segment.behind, Segment.chars, Segment.isIndex]

theorem toList_appendTo_empty (s : Segment) (separator : String) :
    (s.appendTo "" separator).toList = s.chars := by
  cases s with
  | key t => simp [Segment.appendTo, Segment.chars]
  | index ds => simp [Segment.appendTo, Segment.chars]

theorem toList_foldl_appendTo {out : String} (separator : String) (h : out ≠ "")
    (segments : List Segment) :
    (segments.foldl (fun out s => s.appendTo out separator) out).toList =
      out.toList ++ segments.flatMap (Segment.behind separator.toList) := by
  induction segments generalizing out with
  | nil => simp
  | cons s segments ih =>
    have hs := toList_appendTo s separator h
    have hne : s.appendTo out separator ≠ "" := by
      rw [ne_eq, ← String.toList_eq_nil_iff, hs]
      simp [h]
    rw [List.foldl_cons, ih hne, hs, List.flatMap_cons, List.append_assoc]

/-- The text of a path: its first segment, and each other one as it stands behind others. -/
theorem toList_render_cons {s : Segment} (h : s.WellFormed) (segments : List Segment) (separator : String) :
    (render ⟨s :: segments⟩ separator).toList =
      s.chars ++ segments.flatMap (Segment.behind separator.toList) := by
  have hs := toList_appendTo_empty s separator
  have hne : s.appendTo "" separator ≠ "" := by
    rw [ne_eq, ← String.toList_eq_nil_iff, hs]
    exact h.chars_ne_nil
  rw [render, List.foldl_cons, toList_foldl_appendTo separator hne, hs]

theorem intercalate_modifyHead (sep x : List Char) {ps : List (List Char)} (h : ps ≠ []) :
    sep.intercalate (ps.modifyHead (x ++ ·)) = x ++ sep.intercalate ps := by
  match ps, h with
  | [p], _ => simp [List.intercalate]
  | p :: q :: ps, _ => simp [List.intercalate]

/-- The chunks of a path, joined by the separator. -/
theorem intercalate_chunkTexts (sep : List Char) (s : Segment) (segments : List Segment) :
    sep.intercalate (chunkTexts (s :: segments)) = s.chars ++ segments.flatMap (Segment.behind sep) := by
  induction segments generalizing s with
  | nil => simp [chunkTexts, chunks, List.intercalate]
  | cons r segments ih =>
    cases hr : r.isIndex with
    | true =>
      have hne : chunkTexts (r :: segments) ≠ [] := fun h => nomatch chunkTexts_eq_nil_iff.1 h
      rw [chunkTexts_cons_index s hr, intercalate_modifyHead sep _ hne, ih, List.flatMap_cons,
        Segment.behind, if_pos hr, List.nil_append]
    | false =>
      have hb : BeginsChunk (r :: segments) := fun t ht => Option.some.inj ht ▸ hr
      obtain ⟨c, cs, hc⟩ := List.exists_cons_of_ne_nil (l := chunkTexts (r :: segments))
        fun h => nomatch chunkTexts_eq_nil_iff.1 h
      rw [chunkTexts_cons s hb, hc, intercalate_cons_cons, ← hc, ih, List.flatMap_cons,
        Segment.behind, if_neg (by simp [hr])]
      simp

theorem toList_render {segments : List Segment} (h : ∀ s ∈ segments, s.WellFormed) (separator : String) :
    (render ⟨segments⟩ separator).toList = separator.toList.intercalate (chunkTexts segments) := by
  cases segments with
  | nil => rfl
  | cons s segments =>
    rw [toList_render_cons (h s (List.mem_cons_self ..)), intercalate_chunkTexts]

/-! ## Writable paths -/

/-- A path that can be written: its segments are well formed, and the separator cuts its text between its
chunks and nowhere else. -/
structure Writable (separator : String) (p : KeyPath) : Prop where
  wellFormed : ∀ s ∈ p.segments, s.WellFormed
  isSplit : IsSplit separator.toList (chunkTexts p.segments)

theorem Writable.ne_nil {separator : String} {p : KeyPath} (h : p.Writable separator) : p.segments ≠ [] :=
  fun e => h.isSplit.ne_nil (chunkTexts_eq_nil_iff.2 e)

theorem Writable.render_ne_empty {separator : String} {p : KeyPath} (h : p.Writable separator) :
    p.render separator ≠ "" := by
  obtain ⟨segments⟩ := p
  obtain ⟨s, segments, rfl⟩ := List.exists_cons_of_ne_nil h.ne_nil
  have hs := h.wellFormed s (List.mem_cons_self ..)
  rw [ne_eq, ← String.toList_eq_nil_iff, toList_render_cons hs]
  exact List.append_ne_nil_of_left_ne_nil hs.chars_ne_nil _

/-- The texts that parse as a path: the one that it renders to, if it is writable. -/
theorem parse_eq_ok_iff {path separator : String} {p : KeyPath} :
    parse path separator = .ok p ↔ p.Writable separator ∧ p.render separator = path := by
  obtain ⟨segments⟩ := p
  have hall : readAll (splitOn separator.toList path.toList) = .ok segments ↔
      (Writable separator ⟨segments⟩ ∧ render ⟨segments⟩ separator = path) := by
    rw [readAll_eq_ok_iff, eq_comm (a := chunkTexts segments), splitOn_eq_iff]
    constructor
    · rintro ⟨hw, hs, hp⟩
      exact ⟨⟨hw, hs⟩, String.toList_inj.1 (by rw [toList_render hw, hp])⟩
    · rintro ⟨h, rfl⟩
      exact ⟨h.wellFormed, h.isSplit, (toList_render h.wellFormed separator).symm⟩
  unfold parse
  constructor
  · intro h
    split at h
    · cases h
    · split at h
      · next hr => cases h; exact hall.1 hr
      · cases h
  · rintro ⟨h, rfl⟩
    rw [if_neg (by simpa using h.render_ne_empty), hall.2 ⟨h, rfl⟩]

/-! ## Beginnings of a path -/

/-- The chunks of a beginning of a path are those of the path, the last one perhaps cut short. -/
theorem exists_chunkTexts_append (s : Segment) (front back : List Segment) :
    ∃ cs p rest ds, chunkTexts (s :: front) = cs ++ [p] ∧
      chunkTexts (s :: front ++ back) = cs ++ (p ++ rest) :: ds := by
  induction front generalizing s with
  | nil =>
    refine ⟨[], s.chars, ?_⟩
    obtain ⟨indexes, tail, rfl, hi, ht⟩ := exists_indexes back
    refine ⟨indexes.flatMap Segment.chars, chunkTexts tail, by simp [chunkTexts, chunks], ?_⟩
    exact chunkTexts_eq_cons_iff.2 ⟨s, indexes, tail, rfl, hi, ht, rfl, rfl⟩
  | cons r front ih =>
    obtain ⟨cs, p, rest, ds, h1, h2⟩ := ih r
    cases hr : r.isIndex with
    | true =>
      have e1 := chunkTexts_cons_index s hr front
      have e2 := chunkTexts_cons_index s hr (front ++ back)
      rw [h1] at e1
      rw [← List.cons_append, h2] at e2
      cases cs with
      | nil => exact ⟨[], s.chars ++ p, rest, ds, e1, by simpa using e2⟩
      | cons c cs => exact ⟨(s.chars ++ c) :: cs, p, rest, ds, e1, e2⟩
    | false =>
      have hb : ∀ back, BeginsChunk (r :: back) := fun back t ht => Option.some.inj ht ▸ hr
      refine ⟨s.chars :: cs, p, rest, ds, ?_, ?_⟩
      · rw [chunkTexts_cons s (hb front), h1, List.cons_append]
      · rw [List.cons_append, List.cons_append, chunkTexts_cons s (hb _), ← List.cons_append, h2,
          List.cons_append]

theorem isSplit_append {sep p rest : List Char} {cs ds : List (List Char)}
    (h : IsSplit sep (cs ++ (p ++ rest) :: ds)) : IsSplit sep (cs ++ [p]) := by
  induction cs with
  | nil =>
    by_cases hs : sep = []
    · exact .inl hs
    have hnot : ¬ sep <:+: p ++ rest := by
      cases ds with
      | nil => exact h.resolve_left hs
      | cons d ds => exact h.2.1.not_occurs hs
    exact .inr fun hp => hnot (hp.trans (List.prefix_append p rest).isInfix)
  | cons c cs ih =>
    cases cs with
    | nil => exact ⟨h.1, h.2.1, ih h.2.2⟩
    | cons c' cs => exact ⟨h.1, h.2.1, ih h.2.2⟩

/-- A beginning of a writable path is writable. -/
theorem Writable.of_append {separator : String} {front back : List Segment} (hne : front ≠ [])
    (h : Writable separator ⟨front ++ back⟩) : Writable separator ⟨front⟩ := by
  refine ⟨fun s hs => h.wellFormed s (List.mem_append_left _ hs), ?_⟩
  obtain ⟨s, front, rfl⟩ := List.exists_cons_of_ne_nil hne
  obtain ⟨cs, p, rest, ds, h1, h2⟩ := exists_chunkTexts_append s front back
  have := h.isSplit
  rw [h2] at this
  rw [h1]
  exact isSplit_append this

/-- A longer path has a longer text. -/
theorem Writable.render_append {separator : String} {front back : List Segment} (hf : front ≠ [])
    (hb : back ≠ []) (h : Writable separator ⟨front ++ back⟩) :
    ∃ rest, rest ≠ "" ∧ render ⟨front ++ back⟩ separator = render ⟨front⟩ separator ++ rest := by
  obtain ⟨s, front, rfl⟩ := List.exists_cons_of_ne_nil hf
  obtain ⟨r, back, rfl⟩ := List.exists_cons_of_ne_nil hb
  have hs := h.wellFormed s (by simp)
  have hr := h.wellFormed r (by simp)
  refine ⟨String.ofList ((r :: back).flatMap (Segment.behind separator.toList)), ?_, ?_⟩
  · rw [ne_eq, ← String.toList_eq_nil_iff, String.toList_ofList, List.flatMap_cons, Segment.behind]
    simp [hr.chars_ne_nil]
  · apply String.toList_inj.1
    rw [List.cons_append, toList_render_cons hs, String.toList_append, toList_render_cons hs,
      String.toList_ofList, List.flatMap_append, List.append_assoc]

end KeyPath

end TripLocale
