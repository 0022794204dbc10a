/-
What the chunks of a path are: a chunk reads as segments exactly when it is their text, they are well
formed, all but the first are indexes, and the first is a key unless the chunk opens the path.

`KeyPath.chunks` cuts a list of segments before every key, and `readAll` is its inverse on texts
(`readAll_eq_ok_iff`).
-/
import TripLocale.KeyPath.Grammar
import TripLocale.Proofs.Outcome
import TripLocale.Proofs.Text.Numeral

namespace TripLocale

/-! ## Segments in a chunk -/

namespace Segment

/-- The segment as it stands in a chunk. -/
def chars : Segment → List Char
  | key t => t.toList
  | index ds => '[' :: ds.toList ++ [']']

/-- Whether the segment stands in brackets. -/
def isIndex : Segment → Bool
  | key _ => false
  | index _ => true

/-- The segments that a path can write: keys without brackets, and digits. -/
def WellFormed : Segment → Prop
  | key t => t ≠ "" ∧ '[' ∉ t.toList ∧ ']' ∉ t.toList
  | index ds => ds ≠ "" ∧ ∀ c ∈ ds.toList, c.isDigit = true

theorem WellFormed.chars_ne_nil {s : Segment} (h : s.WellFormed) : s.chars ≠ [] := by
  cases s with
  | key t => simpa [chars] using h.1
  | index ds => simp [chars]

theorem chars_of_isIndex {s : Segment} (h : s.isIndex = true) : ∃ cs, s.chars = '[' :: cs := by
  cases s with
  | key t => cases h
  | index ds => exact ⟨ds.toList ++ [']'], rfl⟩

end Segment

namespace KeyPath

/-! ## Indexes -/

/-- What may stand in brackets. -/
def IsDigits (ds : List Char) : Prop := ds ≠ [] ∧ ∀ c ∈ ds, c.isDigit = true

theorem IsDigits.not_close {ds : List Char} (h : IsDigits ds) : ']' ∉ ds :=
  fun hm => absurd (h.2 _ hm) (by decide)

theorem isDigits_iff {ds : String} : IsDigits ds.toList ↔ (Segment.index ds).WellFormed := by
  simp [IsDigits, Segment.WellFormed]

/-- A number in decimal may stand in brackets. -/
theorem isDigits_toString (n : Nat) : IsDigits (toString n).toList := by
  have hn : (toString n).toList = Nat.toDigits 10 n := Nat.toList_repr
  rw [hn]
  exact ⟨Nat.toDigits_ne_nil, fun _ => Text.isDigit_of_mem_toDigits⟩

theorem readIndexes_open {ds : List Char} {cs tail : List Char} (h : ']' ∉ cs) :
    readIndexes (some ds) (cs ++ ']' :: tail) = readIndexes (some (cs.reverse ++ ds)) (']' :: tail) := by
  induction cs generalizing ds with
  | nil => rfl
  | cons c cs ih =>
    rw [List.mem_cons, not_or] at h
    rw [List.cons_append, readIndexes, if_neg (Ne.symm h.1), ih h.2]
    simp

theorem readIndexes_unclosed {ds cs : List Char} (h : ']' ∉ cs) :
    readIndexes (some ds) cs = .error .unclosedBracket := by
  induction cs generalizing ds with
  | nil => rfl
  | cons c cs ih =>
    rw [List.mem_cons, not_or] at h
    rw [readIndexes, if_neg (Ne.symm h.1), ih h.2]

theorem readIndexes_bracket {cs tail : List Char} (h : ']' ∉ cs) :
    readIndexes none ('[' :: cs ++ ']' :: tail) = readIndexes (some cs.reverse) (']' :: tail) := by
  rw [List.cons_append, readIndexes, if_pos rfl, readIndexes_open h, List.append_nil]

/-- Behind digits in brackets the indexes go on. -/
theorem readIndexes_of_isDigits {ds : List Char} (h : IsDigits ds) (tail : List Char) :
    readIndexes none ('[' :: ds ++ ']' :: tail) =
      (Segment.index (String.ofList ds) :: ·) <$> readIndexes none tail := by
  have hcond : ¬ (ds.reverse.isEmpty || !ds.reverse.all Char.isDigit) = true := by
    simpa [IsDigits] using h
  rw [readIndexes_bracket h.not_close, readIndexes, if_pos rfl]
  dsimp only
  rw [if_neg hcond, List.reverse_reverse]

/-- Nothing but digits may stand in brackets. -/
theorem readIndexes_of_not_isDigits {ds : List Char} (hb : ']' ∉ ds) (h : ¬ IsDigits ds)
    (tail : List Char) :
    readIndexes none ('[' :: ds ++ ']' :: tail) = .error (.invalidIndex (String.ofList ds)) := by
  have hcond : (ds.reverse.isEmpty || !ds.reverse.all Char.isDigit) = true := by
    simpa [IsDigits, Classical.or_iff_not_imp_left] using h
  rw [readIndexes_bracket hb, readIndexes, if_pos rfl]
  dsimp only
  rw [if_pos hcond, List.reverse_reverse]

/-- Indexes are read from their text, whatever follows it. -/
theorem readIndexes_flatMap_chars {segments : List Segment}
    (h : ∀ s ∈ segments, s.WellFormed ∧ s.isIndex = true) (more : List Char) :
    readIndexes none (segments.flatMap Segment.chars ++ more) =
      (segments ++ ·) <$> readIndexes none more := by
  induction segments with
  | nil => cases hm : readIndexes none more <;> simp [hm, Functor.map, Except.map]
  | cons s segments ih =>
    obtain ⟨⟨hs, hi⟩, hrest⟩ := List.forall_mem_cons.1 h
    cases s with
    | key t => cases hi
    | index ds =>
      have hsplit : (Segment.index ds :: segments).flatMap Segment.chars ++ more =
          '[' :: ds.toList ++ ']' :: (segments.flatMap Segment.chars ++ more) := by simp [Segment.chars]
      rw [hsplit, readIndexes_of_isDigits (isDigits_iff.2 hs), ih hrest]
      cases readIndexes none more <;> simp [Functor.map, Except.map]

theorem readIndexes_eq_ok_iff {cs : List Char} {segments : List Segment} :
    readIndexes none cs = .ok segments ↔
      (∀ s ∈ segments, s.WellFormed ∧ s.isIndex = true) ∧ segments.flatMap Segment.chars = cs := by
  constructor
  · intro h
    induction hn : cs.length using Nat.strongRecOn generalizing cs segments with
    | ind n ih =>
      cases cs with
      | nil =>
        cases h
        exact ⟨nofun, rfl⟩
      | cons c cs =>
        by_cases hc : c = '['
        · subst hc
          by_cases hm : ']' ∈ cs
          · obtain ⟨ds, tail, rfl, hds⟩ := List.eq_append_cons_of_mem hm
            rw [← List.cons_append] at h
            by_cases hd : IsDigits ds
            · rw [readIndexes_of_isDigits hd] at h
              obtain ⟨rest, hr, rfl⟩ := map_eq_ok_iff.1 h
              obtain ⟨hw, rfl⟩ := ih tail.length (by rw [← hn]; simp; omega) hr rfl
              refine ⟨?_, by simp [Segment.chars]⟩
              rw [List.forall_mem_cons]
              exact ⟨⟨isDigits_iff.1 (by rwa [String.toList_ofList]), rfl⟩, hw⟩
            · rw [readIndexes_of_not_isDigits hds hd] at h
              cases h
          · rw [readIndexes, if_pos rfl, readIndexes_unclosed hm] at h
            cases h
        · rw [readIndexes, if_neg hc] at h
          cases h
  · rintro ⟨hw, rfl⟩
    have h := readIndexes_flatMap_chars hw []
    rw [List.append_nil] at h
    rw [h]
    simp [readIndexes, Functor.map, Except.map]

/-! ## Chunks -/

/-- What stands behind the key of a chunk: nothing, or a bracket. -/
def Bracketed (cs : List Char) : Prop := ∀ c, cs.head? = some c → c = '['

theorem bracketed_nil : Bracketed [] := nofun

theorem bracketed_cons (cs : List Char) : Bracketed ('[' :: cs) := fun _ h => (Option.some.inj h).symm

theorem Bracketed.append {a b : List Char} (ha : Bracketed a) (hb : Bracketed b) : Bracketed (a ++ b) := by
  cases a with
  | nil => exact hb
  | cons c a => exact ha

theorem bracketed_flatMap_chars {segments : List Segment} (h : ∀ s ∈ segments, s.isIndex = true) :
    Bracketed (segments.flatMap Segment.chars) := by
  cases segments with
  | nil => exact bracketed_nil
  | cons s segments =>
    obtain ⟨cs, hs⟩ := Segment.chars_of_isIndex (h s (List.mem_cons_self ..))
    rw [List.flatMap_cons, hs]
    exact bracketed_cons _

/-- A chunk is a key without an opening bracket, and what stands behind it. -/
theorem exists_name (chunk : List Char) :
    ∃ name rest, chunk = name ++ rest ∧ '[' ∉ name ∧ Bracketed rest := by
  refine ⟨chunk.takeWhile (· != '['), chunk.dropWhile (· != '['), ?_, fun hm => ?_, fun c hc => ?_⟩
  · exact List.takeWhile_append_dropWhile.symm
  · simpa using List.all_eq_true.1 List.all_takeWhile _ hm
  · simpa [hc] using List.head?_dropWhile_not (· != '[') chunk

/-- How a chunk is read, by its key and what stands behind it. -/
theorem readChunk_append {name rest : List Char} (first : Bool) (hn : '[' ∉ name) (hr : Bracketed rest) :
    readChunk first (name ++ rest) =
      if ']' ∈ name then .error .trailingText
      else if name = [] then
        if rest = [] ∨ first = false then .error .emptySegment else readIndexes none rest
      else (Segment.key (String.ofList name) :: ·) <$> readIndexes none rest := by
  have hall : ∀ c ∈ name, (c != '[') = true := fun c hc => bne_iff_ne.2 fun e => hn (e ▸ hc)
  have ht : (name ++ rest).takeWhile (· != '[') = name := by
    rw [List.takeWhile_append_of_pos hall]
    cases rest with
    | nil => simp
    | cons c rest => simp [hr c rfl]
  have hd : (name ++ rest).dropWhile (· != '[') = rest := by
    rw [List.dropWhile_append_of_pos hall]
    cases rest with
    | nil => rfl
    | cons c rest => simp [hr c rfl]
  unfold readChunk
  simp only [ht, hd, List.contains_iff_mem, List.isEmpty_iff, Bool.or_eq_true, Bool.not_eq_true']

/-- How a chunk without a key is read. -/
theorem readChunk_of_bracketed {rest : List Char} (first : Bool) (hr : Bracketed rest) :
    readChunk first rest =
      if rest = [] ∨ first = false then .error .emptySegment else readIndexes none rest := by
  have h := readChunk_append first List.not_mem_nil hr
  rwa [List.nil_append, if_neg List.not_mem_nil, if_pos rfl] at h

/-- A chunk reads as the well-formed segments whose text it is. -/
theorem readChunk_eq_ok_iff {first : Bool} {chunk : List Char} {segments : List Segment} :
    readChunk first chunk = .ok segments ↔
      ∃ s indexes, segments = s :: indexes ∧ (∀ r ∈ segments, r.WellFormed) ∧
        (∀ r ∈ indexes, r.isIndex = true) ∧ (s.isIndex = true → first = true) ∧
        segments.flatMap Segment.chars = chunk := by
  constructor
  · intro h
    obtain ⟨name, rest, rfl, hn, hr⟩ := exists_name chunk
    rw [readChunk_append first hn hr] at h
    split at h
    · cases h
    next hb =>
    split at h
    · next he =>
      subst he
      split at h
      · cases h
      next hf =>
      obtain ⟨hw, rfl⟩ := readIndexes_eq_ok_iff.1 h
      rw [not_or, Bool.not_eq_false] at hf
      cases segments with
      | nil => exact absurd rfl hf.1
      | cons s segments =>
        exact ⟨s, segments, rfl, fun r hr => (hw r hr).1,
          fun r hr => (hw r (List.mem_cons_of_mem _ hr)).2, fun _ => hf.2, rfl⟩
    · next he =>
      obtain ⟨indexes, hi, rfl⟩ := map_eq_ok_iff.1 h
      obtain ⟨hw, rfl⟩ := readIndexes_eq_ok_iff.1 hi
      refine ⟨_, indexes, rfl, ?_, fun r hr => (hw r hr).2, nofun, by simp [Segment.chars]⟩
      rw [List.forall_mem_cons]
      exact ⟨⟨by simpa using he, by simpa using hn, by simpa using hb⟩, fun r hr => (hw r hr).1⟩
  · rintro ⟨s, indexes, rfl, hw, hi, hf, rfl⟩
    obtain ⟨hs, hwi⟩ := List.forall_mem_cons.1 hw
    cases s with
    | key t =>
      rw [List.flatMap_cons, Segment.chars, readChunk_append first hs.2.1 (bracketed_flatMap_chars hi),
        if_neg hs.2.2, if_neg (by simpa using hs.1),
        readIndexes_eq_ok_iff.2 ⟨fun r hr => ⟨hwi r hr, hi r hr⟩, rfl⟩]
      simp [Functor.map, Except.map]
    | index ds =>
      have hall : ∀ r ∈ Segment.index ds :: indexes, r.isIndex = true :=
        List.forall_mem_cons.2 ⟨rfl, hi⟩
      have hne : (Segment.index ds :: indexes).flatMap Segment.chars ≠ [] := by simp [Segment.chars]
      rw [readChunk_of_bracketed first (bracketed_flatMap_chars hall),
        if_neg (not_or.2 ⟨hne, by rw [hf rfl]; nofun⟩)]
      exact readIndexes_eq_ok_iff.2 ⟨fun r hr => ⟨hw r hr, hall r hr⟩, rfl⟩

/-- The text of well-formed segments, all but the first of them indexes, reads as these segments. -/
theorem readChunk_flatMap_chars {s : Segment} {indexes : List Segment}
    (hw : ∀ r ∈ s :: indexes, r.WellFormed) (hi : ∀ r ∈ indexes, r.isIndex = true) :
    readChunk true ((s :: indexes).flatMap Segment.chars) = .ok (s :: indexes) :=
  readChunk_eq_ok_iff.2 ⟨s, indexes, rfl, hw, hi, fun _ => rfl, rfl⟩

end KeyPath

end TripLocale
