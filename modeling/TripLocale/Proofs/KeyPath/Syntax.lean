/-
The grammar of key paths apart from their reader, and the reader measured against it (`parse_exact`).

A chunk of a path is a key and groups of digits in brackets (`Chunk`). What is no such chunk has a fault
(`ChunkFails`): that of the text before its first bracket, or else that of its first bad group
(`GroupFails`). A path reads as the segments of its chunks; if some chunk is outside the grammar, the error
is the fault of the first one, whatever follows it.
-/
import TripLocale.Proofs.KeyPath.Chunk
import TripLocale.Proofs.Text.Split

namespace TripLocale.KeyPath

open Text

/-! ## Chunks and their faults -/

/-- A key, empty if it is missing, and what stands in the brackets behind it. -/
structure Chunk where
  name : List Char
  groups : List (List Char)

namespace Chunk

/-- What stands behind the key. -/
def rest (c : Chunk) : List Char := c.groups.flatMap fun ds => '[' :: ds ++ [']']

/-- The chunk as it is written. -/
def text (c : Chunk) : List Char := c.name ++ c.rest

/-- The segments of the groups. -/
def indexes (c : Chunk) : List Segment := c.groups.map fun ds => .index (String.ofList ds)

/-- The segments that the chunk stands for. -/
def segments (c : Chunk) : List Segment :=
  if c.name = [] then c.indexes else .key (String.ofList c.name) :: c.indexes

/-- The chunk is in the grammar. Only the first chunk of a path may be without a key, before a group. -/
structure WellFormed (first : Bool) (c : Chunk) : Prop where
  not_open : '[' ∉ c.name
  not_close : ']' ∉ c.name
  digits : ∀ ds ∈ c.groups, IsDigits ds
  named : c.name ≠ [] ∨ first = true ∧ c.groups ≠ []

/-- The chunks are in the grammar. `first` tells whether they open a path. -/
def AllWellFormed (first : Bool) : List Chunk → Prop
  | [] => True
  | c :: cs => c.WellFormed first ∧ AllWellFormed false cs

end Chunk

/-- The text behind a key has a bad group, and the first one has this fault. -/
inductive GroupFails : List Char → ChunkFault → Prop
  | unclosed {cs : List Char} : ']' ∉ cs → GroupFails ('[' :: cs) .unclosedBracket
  | invalid {ds tail : List Char} : ']' ∉ ds → ¬ IsDigits ds →
      GroupFails ('[' :: ds ++ ']' :: tail) (.invalidIndex (String.ofList ds))
  | trailing {ds tail : List Char} {c : Char} : IsDigits ds → c ≠ '[' →
      GroupFails ('[' :: ds ++ ']' :: c :: tail) .trailingText
  | later {ds tail : List Char} {fault : ChunkFault} : IsDigits ds → GroupFails tail fault →
      GroupFails ('[' :: ds ++ ']' :: tail) fault

/-- A chunk is outside the grammar, and this is its fault: before its first opening bracket there is a
closing one, or else no key where one must be; or else it has a bad group. -/
inductive ChunkFails (first : Bool) : List Char → ChunkFault → Prop
  | stray {name rest : List Char} : '[' ∉ name → Bracketed rest → ']' ∈ name →
      ChunkFails first (name ++ rest) .trailingText
  | nameless {rest : List Char} : Bracketed rest → rest = [] ∨ first = false →
      ChunkFails first rest .emptySegment
  | group {name rest : List Char} {fault : ChunkFault} : '[' ∉ name → Bracketed rest → ']' ∉ name →
      name ≠ [] ∨ first = true → GroupFails rest fault → ChunkFails first (name ++ rest) fault

/-! ## Reading groups -/

theorem Chunk.bracketed_rest (c : Chunk) : Bracketed c.rest := by
  obtain ⟨name, groups⟩ := c
  cases groups with
  | nil => exact bracketed_nil
  | cons ds groups => exact bracketed_cons _

theorem Chunk.rest_ne_nil {c : Chunk} (h : c.groups ≠ []) : c.rest ≠ [] := by
  obtain ⟨ds, groups, hg⟩ := List.exists_cons_of_ne_nil h
  rw [Chunk.rest, hg, List.flatMap_cons]
  exact nofun

/-- Groups of digits read as the indexes that they are. -/
theorem Chunk.readIndexes_rest {c : Chunk} (h : ∀ ds ∈ c.groups, IsDigits ds) :
    readIndexes none c.rest = .ok c.indexes := by
  refine readIndexes_eq_ok_iff.2 ⟨?_, ?_⟩
  · rw [Chunk.indexes, List.forall_mem_map]
    intro ds hm
    exact ⟨isDigits_iff.1 (by rw [String.toList_ofList]; exact h ds hm), rfl⟩
  · simp [Chunk.indexes, Chunk.rest, List.flatMap_map, Segment.chars]

theorem exists_groups {cs : List Char} {segments : List Segment} (h : readIndexes none cs = .ok segments)
    (name : List Char) :
    ∃ c : Chunk, c.name = name ∧ (∀ ds ∈ c.groups, IsDigits ds) ∧ c.rest = cs ∧ c.indexes = segments := by
  obtain ⟨hw, rfl⟩ := readIndexes_eq_ok_iff.1 h
  clear h
  induction segments with
  | nil => exact ⟨⟨name, []⟩, rfl, nofun, rfl, rfl⟩
  | cons s segments ih =>
    obtain ⟨⟨hs, hi⟩, hws⟩ := List.forall_mem_cons.1 hw
    obtain ⟨⟨_, groups⟩, rfl, hd, hr, hx⟩ := ih hws
    cases s with
    | key t => cases hi
    | index ds =>
      refine ⟨⟨_, ds.toList :: groups⟩, rfl, List.forall_mem_cons.2 ⟨isDigits_iff.2 hs, hd⟩, ?_, ?_⟩
      · rw [List.flatMap_cons, ← hr]
        rfl
      · rw [← hx]
        simp [Chunk.indexes]

/-- Reading what stands behind a key fails with the fault of the first bad group. -/
theorem readIndexes_eq_error_iff {cs : List Char} (hb : Bracketed cs) {fault : ChunkFault} :
    readIndexes none cs = .error fault ↔ GroupFails cs fault := by
  constructor
  · intro h
    induction hn : cs.length using Nat.strongRecOn generalizing cs with
    | ind n ih =>
      cases cs with
      | nil => cases h
      | cons c cs =>
        obtain rfl : c = '[' := hb c rfl
        by_cases hm : ']' ∈ cs
        · obtain ⟨ds, tail, rfl, hds⟩ := List.eq_append_cons_of_mem hm
          rw [← List.cons_append] at h ⊢
          by_cases hd : IsDigits ds
          · rw [readIndexes_of_isDigits hd, map_eq_error_iff] at h
            -- a good group is followed by nothing, by another group, or by text that may not be there
            cases tail with
            | nil => cases h
            | cons x tail =>
              by_cases hx : x = '['
              · refine .later hd (ih (x :: tail).length ?_ (fun y hy => ?_) h rfl)
                · rw [← hn]
                  simp
                  omega
                · exact Option.some.inj hy ▸ hx
              · rw [readIndexes, if_neg hx] at h
                cases h
                exact .trailing hd hx
          · rw [readIndexes_of_not_isDigits hds hd] at h
            cases h
            exact .invalid hds hd
        · rw [readIndexes, if_pos rfl, readIndexes_unclosed hm] at h
          cases h
          exact .unclosed hm
  · intro h
    clear hb
    induction h with
    | unclosed hm => rw [readIndexes, if_pos rfl, readIndexes_unclosed hm]
    | invalid hds hd => exact readIndexes_of_not_isDigits hds hd _
    | trailing hd hx =>
      rw [readIndexes_of_isDigits hd, readIndexes, if_neg hx]
      rfl
    | later hd _ ih =>
      rw [readIndexes_of_isDigits hd, ih]
      rfl

/-! ## Reading chunks -/

/-- A chunk is read when it is in the grammar, as the segments that it stands for. -/
theorem readChunk_eq_ok_iff_chunk {first : Bool} {t : List Char} {segments : List Segment} :
    readChunk first t = .ok segments ↔
      ∃ c : Chunk, c.WellFormed first ∧ c.text = t ∧ c.segments = segments := by
  constructor
  · intro h
    obtain ⟨name, rest, rfl, ho, hr⟩ := exists_name t
    rw [readChunk_append first ho hr] at h
    split at h
    · cases h
    next hc =>
    split at h
    · next hn =>
      subst hn
      split at h
      · cases h
      next hf =>
      obtain ⟨c, hn, hd, rfl, rfl⟩ := exists_groups h []
      rw [not_or, Bool.not_eq_false] at hf
      have hg : c.groups ≠ [] := fun e => hf.1 (by rw [Chunk.rest, e]; rfl)
      exact ⟨c, ⟨hn ▸ ho, hn ▸ hc, hd, .inr ⟨hf.2, hg⟩⟩, by rw [Chunk.text, hn], if_pos hn⟩
    · next hn =>
      obtain ⟨indexes, hi, rfl⟩ := map_eq_ok_iff.1 h
      obtain ⟨c, rfl, hd, rfl, rfl⟩ := exists_groups hi name
      exact ⟨c, ⟨ho, hc, hd, .inl hn⟩, rfl, if_neg hn⟩
  · rintro ⟨c, h, rfl, rfl⟩
    rw [Chunk.text, readChunk_append first h.not_open c.bracketed_rest, if_neg h.not_close,
      Chunk.readIndexes_rest h.digits, Chunk.segments]
    by_cases hn : c.name = []
    · obtain ⟨hf, hg⟩ := h.named.resolve_left (not_not_intro hn)
      rw [if_pos hn, if_pos hn, if_neg (not_or.2 ⟨Chunk.rest_ne_nil hg, by simp [hf]⟩)]
    · rw [if_neg hn, if_neg hn]
      rfl

theorem readChunk_eq_error_iff {first : Bool} {t : List Char} {fault : ChunkFault} :
    readChunk first t = .error fault ↔ ChunkFails first t fault := by
  constructor
  · intro h
    obtain ⟨name, rest, rfl, ho, hr⟩ := exists_name t
    rw [readChunk_append first ho hr] at h
    split at h
    · next hc =>
      cases h
      exact .stray ho hr hc
    next hc =>
    split at h
    · next hn =>
      subst hn
      split at h
      · next hf =>
        cases h
        exact .nameless hr hf
      · next hf =>
        rw [not_or, Bool.not_eq_false] at hf
        exact .group ho hr hc (.inr hf.2) ((readIndexes_eq_error_iff hr).1 h)
    · next hn =>
      rw [map_eq_error_iff, readIndexes_eq_error_iff hr] at h
      exact .group ho hr hc (.inl hn) h
  · intro h
    cases h with
    | stray ho hr hc => rw [readChunk_append first ho hr, if_pos hc]
    | nameless hr hf => rw [readChunk_of_bracketed first hr, if_pos hf]
    | @group name rest _ ho hr hc hf hg =>
      rw [readChunk_append first ho hr, if_neg hc, (readIndexes_eq_error_iff hr).2 hg]
      by_cases hn : name = []
      · have hne : rest ≠ [] := by rintro rfl; cases hg
        have hfirst : first = true := hf.resolve_left (not_not_intro hn)
        rw [if_pos hn, if_neg (not_or.2 ⟨hne, by simp [hfirst]⟩)]
      · rw [if_neg hn]
        rfl

/-! ## Reading paths -/

/-- A chunk and those behind it are read when all are in the grammar. -/
theorem readChunk_bind_eq_ok_iff {first : Bool} {t : List Char} {ts : List (List Char)}
    {segments : List Segment}
    (ih : ∀ {segments}, readChunks ts = .ok segments ↔ ∃ cs : List Chunk,
      Chunk.AllWellFormed false cs ∧ cs.map Chunk.text = ts ∧ cs.flatMap Chunk.segments = segments) :
    (do let a ← readChunk first t; let b ← readChunks ts; return a ++ b) = Except.ok segments ↔
      ∃ cs : List Chunk, Chunk.AllWellFormed first cs ∧ cs.map Chunk.text = t :: ts ∧
        cs.flatMap Chunk.segments = segments := by
  simp only [bind_eq_ok_iff, pure_eq_ok_iff, readChunk_eq_ok_iff_chunk, ih]
  constructor
  · rintro ⟨_, ⟨c, hc, rfl, rfl⟩, _, ⟨cs, hcs, rfl, rfl⟩, rfl⟩
    exact ⟨c :: cs, ⟨hc, hcs⟩, rfl, rfl⟩
  · rintro ⟨cs, h, ht, rfl⟩
    obtain ⟨c, cs, rfl, rfl, rfl⟩ := List.map_eq_cons_iff.1 ht
    exact ⟨_, ⟨c, h.1, rfl, rfl⟩, _, ⟨cs, h.2, rfl, rfl⟩, rfl⟩

theorem eq_nil_iff_exists_chunk {first : Bool} {segments : List Segment} :
    Except.ok (ε := ChunkFault) [] = .ok segments ↔ ∃ cs : List Chunk,
      Chunk.AllWellFormed first cs ∧ cs.map Chunk.text = [] ∧ cs.flatMap Chunk.segments = segments := by
  constructor
  · intro h
    cases h
    exact ⟨[], trivial, rfl, rfl⟩
  · rintro ⟨cs, -, ht, rfl⟩
    obtain rfl := List.map_eq_nil_iff.1 ht
    rfl

theorem readChunks_eq_ok_iff_chunk {ts : List (List Char)} {segments : List Segment} :
    readChunks ts = .ok segments ↔ ∃ cs : List Chunk,
      Chunk.AllWellFormed false cs ∧ cs.map Chunk.text = ts ∧ cs.flatMap Chunk.segments = segments := by
  induction ts generalizing segments with
  | nil => exact eq_nil_iff_exists_chunk
  | cons t ts ih => exact readChunk_bind_eq_ok_iff ih

theorem readAll_eq_ok_iff_chunk {ts : List (List Char)} {segments : List Segment} :
    readAll ts = .ok segments ↔ ∃ cs : List Chunk,
      Chunk.AllWellFormed true cs ∧ cs.map Chunk.text = ts ∧ cs.flatMap Chunk.segments = segments := by
  cases ts with
  | nil => exact eq_nil_iff_exists_chunk
  | cons t ts => exact readChunk_bind_eq_ok_iff readChunks_eq_ok_iff_chunk

/-- Reading chunks fails at the first of them outside the grammar. -/
theorem readChunk_bind_eq_error_iff (first : Bool) {t : List Char} {ts : List (List Char)}
    {fault : ChunkFault}
    (ih : readChunks ts = .error fault ↔ ∃ (front : List Chunk) (bad : List Char) (back : List (List Char)),
      Chunk.AllWellFormed false front ∧ ChunkFails false bad fault ∧
        front.map Chunk.text ++ bad :: back = ts) :
    (do let a ← readChunk first t; let b ← readChunks ts; return a ++ b) = Except.error fault ↔
      ∃ (front : List Chunk) (bad : List Char) (back : List (List Char)),
        Chunk.AllWellFormed first front ∧ ChunkFails (first && front.isEmpty) bad fault ∧
          front.map Chunk.text ++ bad :: back = t :: ts := by
  simp only [bind_eq_error_iff, readChunk_eq_ok_iff_chunk, readChunk_eq_error_iff, ih]
  constructor
  · rintro (h | ⟨_, ⟨c, hc, rfl, rfl⟩, ⟨front, bad, back, hf, hb, rfl⟩ | ⟨_, _, h⟩⟩)
    · exact ⟨[], t, ts, trivial, by simpa using h, rfl⟩
    · exact ⟨c :: front, bad, back, ⟨hc, hf⟩, by simpa using hb, rfl⟩
    · cases h
  · rintro ⟨front, bad, back, hf, hb, ht⟩
    cases front with
    | nil =>
      cases ht
      exact .inl (by simpa using hb)
    | cons c front =>
      cases ht
      exact .inr ⟨_, ⟨c, hf.1, rfl, rfl⟩, .inl ⟨front, bad, back, hf.2, by simpa using hb, rfl⟩⟩

theorem readChunks_eq_error_iff {ts : List (List Char)} {fault : ChunkFault} :
    readChunks ts = .error fault ↔ ∃ (front : List Chunk) (bad : List Char) (back : List (List Char)),
      Chunk.AllWellFormed false front ∧ ChunkFails false bad fault ∧
        front.map Chunk.text ++ bad :: back = ts := by
  induction ts with
  | nil => simp [readChunks]
  | cons t ts ih => simpa [readChunks] using readChunk_bind_eq_error_iff false ih

theorem readAll_eq_error_iff {ts : List (List Char)} {fault : ChunkFault} :
    readAll ts = .error fault ↔ ∃ (front : List Chunk) (bad : List Char) (back : List (List Char)),
      Chunk.AllWellFormed true front ∧ ChunkFails front.isEmpty bad fault ∧
        front.map Chunk.text ++ bad :: back = ts := by
  cases ts with
  | nil => simp [readAll]
  | cons t ts => simpa [readAll] using readChunk_bind_eq_error_iff true readChunks_eq_error_iff

theorem parse_eq_ok_iff_readAll {path separator : String} {p : KeyPath} :
    parse path separator = .ok p ↔
      path ≠ "" ∧ readAll (splitOn separator.toList path.toList) = .ok p.segments := by
  obtain ⟨segments⟩ := p
  unfold parse
  by_cases he : path = ""
  · simp [he]
  · rw [if_neg (by simpa using he)]
    cases readAll (splitOn separator.toList path.toList) <;> simp [he]

theorem parse_eq_error_iff {path separator : String} {e : KeyPathError} :
    parse path separator = .error e ↔ path = "" ∧ e = .empty ∨ path ≠ "" ∧
      ∃ fault, readAll (splitOn separator.toList path.toList) = .error fault ∧ e = .chunk path fault := by
  unfold parse
  by_cases he : path = ""
  · simp [he, eq_comm (a := e)]
  · rw [if_neg (by simpa using he)]
    cases readAll (splitOn separator.toList path.toList) <;> simp [he, eq_comm (a := e)]

/-- A path is cut in one way into chunks between leftmost separators. It reads as the segments of these
chunks when all are in the grammar, and otherwise the error is the fault of the first that is not. -/
theorem parse_exact (path separator : String) :
    ∃ ts : List (List Char),
      (∀ ps, IsSplit separator.toList ps ∧ separator.toList.intercalate ps = path.toList ↔ ps = ts) ∧
      (∀ p, parse path separator = .ok p ↔ path ≠ "" ∧ ∃ cs : List Chunk,
        Chunk.AllWellFormed true cs ∧ cs.map Chunk.text = ts ∧ cs.flatMap Chunk.segments = p.segments) ∧
      ∀ e, parse path separator = .error e ↔ path = "" ∧ e = .empty ∨ path ≠ "" ∧
        ∃ (front : List Chunk) (bad : List Char) (back : List (List Char)) (fault : ChunkFault),
          Chunk.AllWellFormed true front ∧ ChunkFails front.isEmpty bad fault ∧
            front.map Chunk.text ++ bad :: back = ts ∧ e = .chunk path fault := by
  refine ⟨splitOn separator.toList path.toList, fun ps => ?_, fun p => ?_, fun e => ?_⟩
  · rw [← splitOn_eq_iff, eq_comm]
  · rw [parse_eq_ok_iff_readAll, readAll_eq_ok_iff_chunk]
  · rw [parse_eq_error_iff]
    simp only [readAll_eq_error_iff]
    constructor
    · rintro (h | ⟨hne, fault, ⟨front, bad, back, hf, hb, ht⟩, he⟩)
      · exact .inl h
      · exact .inr ⟨hne, front, bad, back, fault, hf, hb, ht, he⟩
    · rintro (h | ⟨hne, front, bad, back, fault, hf, hb, ht, he⟩)
      · exact .inl h
      · exact .inr ⟨hne, fault, ⟨front, bad, back, hf, hb, ht⟩, he⟩

end TripLocale.KeyPath
