/-
Separators and keys that never blur: a path of plain keys and of digits in brackets is writable with a
plain separator, whatever its segments are (`writable_of_plain`).

A plain separator has no bracket, so an occurrence of it lies between two brackets; it is not all digits,
so it does not lie within an index; and a plain key ends at the first separator behind it.
-/
import TripLocale.Proofs.KeyPath.Render

namespace TripLocale

open Text

namespace KeyPath

/-- A separator without brackets that digits alone cannot spell. -/
structure PlainSeparator (separator : String) : Prop where
  ne_empty : separator ≠ ""
  not_open : '[' ∉ separator.toList
  not_close : ']' ∉ separator.toList
  not_digits : ∃ c ∈ separator.toList, c.isDigit = false

/-- A key without brackets that ends where the separator behind it first occurs. -/
structure PlainKey (separator key : String) : Prop where
  ne_empty : key ≠ ""
  not_open : '[' ∉ key.toList
  not_close : ']' ∉ key.toList
  cuts : CutsBehind separator.toList key.toList

instance (separator : String) : Decidable (PlainSeparator separator) :=
  decidable_of_iff (separator ≠ "" ∧ '[' ∉ separator.toList ∧ ']' ∉ separator.toList ∧
      separator.toList.all Char.isDigit = false)
    ⟨fun ⟨h, ho, hc, hd⟩ => ⟨h, ho, hc, by simpa using hd⟩,
      fun h => ⟨h.ne_empty, h.not_open, h.not_close, by simpa using h.not_digits⟩⟩

instance (separator key : String) : Decidable (PlainKey separator key) :=
  decidable_of_iff (key ≠ "" ∧ '[' ∉ key.toList ∧ ']' ∉ key.toList ∧
      CutsBehind separator.toList key.toList)
    ⟨fun ⟨h, ho, hc, hk⟩ => ⟨h, ho, hc, hk⟩, fun h => ⟨h.ne_empty, h.not_open, h.not_close, h.cuts⟩⟩

theorem plainSeparator_dot : PlainSeparator "." := by decide

/-! ## Occurrences next to brackets -/

theorem starts_of_not_mem {sep a b : List Char} {x : Char} (hx : x ∉ sep) (h : sep <+: a ++ x :: b) :
    sep <+: a := by
  by_cases hlen : sep.length ≤ a.length
  · exact List.prefix_of_prefix_length_le h (List.prefix_append _ _) hlen
  · have hax : a ++ [x] <+: a ++ x :: b := ⟨b, by simp⟩
    have : a ++ [x] <+: sep := List.prefix_of_prefix_length_le hax h (by simp; omega)
    exact absurd (this.subset (by simp)) hx

theorem not_occurs_cons {sep p : List Char} {x : Char} (hs : sep ≠ []) (hx : x ∉ sep)
    (hp : ¬ sep <:+: p) : ¬ sep <:+: x :: p := by
  rw [List.infix_cons_iff, not_or]
  exact ⟨fun h => hs (List.prefix_nil.1 (starts_of_not_mem (a := []) hx h)), hp⟩

/-- More text before a bracket brings no occurrence but its own. -/
theorem not_occurs_append {sep u p : List Char} {x : Char} (hx : x ∉ sep) (hu : ¬ sep <:+: u)
    (hp : ¬ sep <:+: x :: p) : ¬ sep <:+: u ++ x :: p := by
  induction u with
  | nil => exact hp
  | cons c u ih =>
    rw [List.infix_cons_iff, not_or] at hu
    rw [List.cons_append, List.infix_cons_iff, not_or]
    exact ⟨fun h => hu.1 (starts_of_not_mem (a := c :: u) hx h), ih hu.2⟩

theorem cutsBehind_append {sep u p : List Char} {x : Char} (hx : x ∉ sep) (hu : ¬ sep <:+: u)
    (hp : CutsBehind sep (x :: p)) : CutsBehind sep (u ++ x :: p) := by
  induction u with
  | nil => exact hp
  | cons c u ih =>
    rw [List.infix_cons_iff, not_or] at hu
    refine cutsBehind_cons.2 ⟨fun h => hu.1 ?_, ih hu.2⟩
    exact starts_of_not_mem (a := c :: u) hx (by simpa using h)

/-- A text without the separator ends behind a bracket. -/
theorem cutsBehind_concat {sep u : List Char} {x : Char} (hs : sep ≠ []) (hx : x ∉ sep)
    (hu : ¬ sep <:+: u) : CutsBehind sep (u ++ [x]) := by
  have hbracket : CutsBehind sep [x] := by
    refine cutsBehind_cons.2 ⟨fun h => ?_, cutsBehind_nil sep⟩
    exact hs (List.prefix_nil.1 (starts_of_not_mem (a := []) hx h))
  exact cutsBehind_append hx hu hbracket

theorem isSplit_append_head {sep u p : List Char} {ps : List (List Char)} {x : Char} (hs : sep ≠ [])
    (hx : x ∉ sep) (hu : ¬ sep <:+: u) (h : IsSplit sep ((x :: p) :: ps)) :
    IsSplit sep ((u ++ x :: p) :: ps) := by
  cases ps with
  | nil => exact .inr (not_occurs_append hx hu (h.resolve_left hs))
  | cons q ps => exact ⟨hs, cutsBehind_append hx hu h.2.1, h.2.2⟩

/-! ## Paths of plain segments -/

/-- Chunks that end at the first separator behind each of their segments are cut apart. -/
theorem isSplit_chunkTexts {sep : List Char} (hs : sep ≠ []) (ho : '[' ∉ sep) {segments : List Segment}
    (hne : segments ≠ []) (h : ∀ s ∈ segments, CutsBehind sep s.chars) :
    IsSplit sep (chunkTexts segments) := by
  induction segments with
  | nil => exact absurd rfl hne
  | cons s segments ih =>
    obtain ⟨hsc, h⟩ := List.forall_mem_cons.1 h
    have hocc := hsc.not_occurs hs
    cases segments with
    | nil =>
      have : chunkTexts [s] = [s.chars] := by rw [chunkTexts_cons s beginsChunk_nil]; rfl
      rw [this]
      exact .inr hocc
    | cons r segments =>
      have hrest := ih nofun h
      obtain ⟨c, cs, hc⟩ := List.exists_cons_of_ne_nil hrest.ne_nil
      cases hr : r.isIndex with
      | true =>
        -- the chunk goes on with a bracket, which no occurrence of the separator spans
        obtain ⟨p, hp⟩ : ∃ p, c = '[' :: p := by
          obtain ⟨r', indexes, tail, he, -, -, rfl, -⟩ := chunkTexts_eq_cons_iff.1 hc
          cases he
          obtain ⟨p, hp⟩ := Segment.chars_of_isIndex hr
          exact ⟨p ++ indexes.flatMap Segment.chars, by rw [List.flatMap_cons, hp]; rfl⟩
        rw [chunkTexts_cons_index s hr, hc, List.modifyHead_cons, hp]
        rw [hc, hp] at hrest
        exact isSplit_append_head hs ho hocc hrest
      | false =>
        have hb : BeginsChunk (r :: segments) := fun t ht => Option.some.inj ht ▸ hr
        rw [chunkTexts_cons s hb, hc]
        rw [hc] at hrest
        exact ⟨hs, hsc, hrest⟩

/-- A plain separator does not occur in an index, nor across its end. -/
theorem PlainSeparator.cutsBehind_index {separator ds : String} (h : PlainSeparator separator)
    (hd : ∀ c ∈ ds.toList, c.isDigit = true) :
    CutsBehind separator.toList (Segment.index ds).chars := by
  have hs : separator.toList ≠ [] := by simpa using h.ne_empty
  refine cutsBehind_concat (u := '[' :: ds.toList) hs h.not_close (not_occurs_cons hs h.not_open fun hin => ?_)
  obtain ⟨c, hc, hcd⟩ := h.not_digits
  have := hd c (hin.subset hc)
  rw [hcd] at this
  cases this

/-- The segments of flat keys: plain keys, and digits in brackets. -/
def PlainSegment (separator : String) : Segment → Prop
  | .key t => PlainKey separator t
  | .index ds => ds ≠ "" ∧ ∀ c ∈ ds.toList, c.isDigit = true

theorem PlainSegment.wellFormed {separator : String} {s : Segment} (h : PlainSegment separator s) :
    s.WellFormed := by
  cases s with
  | key t => exact ⟨h.ne_empty, h.not_open, h.not_close⟩
  | index ds => exact h

theorem PlainSegment.cutsBehind {separator : String} (hs : PlainSeparator separator) {s : Segment}
    (h : PlainSegment separator s) : CutsBehind separator.toList s.chars := by
  cases s with
  | key t => exact h.cuts
  | index ds => exact hs.cutsBehind_index h.2

theorem writable_of_plain {separator : String} (hs : PlainSeparator separator) {segments : List Segment}
    (hne : segments ≠ []) (h : ∀ s ∈ segments, PlainSegment separator s) :
    Writable separator ⟨segments⟩ :=
  ⟨fun s hm => (h s hm).wellFormed,
    isSplit_chunkTexts (by simpa using hs.ne_empty) hs.not_open hne fun s hm => (h s hm).cutsBehind hs⟩

end KeyPath

end TripLocale
