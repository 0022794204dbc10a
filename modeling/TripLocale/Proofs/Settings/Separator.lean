/-
What valid settings promise of their separator: a key with one index in brackets is read as that key and that
index, unless the separator occurs among the digits (`parse_indexed`).

A valid separator is not empty and has no bracket, so in a key with an index it occurs within the key or within
the digits. Nothing keeps a separator from being made of digits. If it occurs in the index, the path is cut
between the brackets, and what stands before the cut is a bracket that is not closed.
-/
import TripLocale.Proofs.KeyPath.Below
import TripLocale.Proofs.KeyPath.Syntax
import TripLocale.Settings.Basic

namespace TripLocale

open Text

namespace Text

/-- A text with the separator can be cut at its first occurrence. -/
theorem exists_cutsBehind {sep cs : List Char} (hs : sep ≠ []) (h : sep <:+: cs) :
    ∃ front back, cs = front ++ sep ++ back ∧ CutsBehind sep front := by
  have hsplit : IsSplit sep (splitOn sep cs) := (splitOn_eq_iff.1 rfl).1
  have hjoin : sep.intercalate (splitOn sep cs) = cs := intercalate_splitOn sep cs
  match hp : splitOn sep cs with
  | [] => exact absurd hp (splitOn_ne_nil sep cs)
  | [p] =>
    rw [hp] at hsplit hjoin
    obtain rfl : p = cs := by simpa [List.intercalate] using hjoin
    exact absurd h (hsplit.resolve_left hs)
  | p :: q :: ps =>
    rw [hp] at hsplit hjoin
    rw [intercalate_cons_cons] at hjoin
    exact ⟨p, sep.intercalate (q :: ps), hjoin.symm, hsplit.2.1⟩

end Text

namespace KeyPath

variable {sep key digits : List Char}

/-- A separator without brackets does not reach across the brackets of an index. -/
theorem not_occurs_bracketed (hs : sep ≠ []) (ho : '[' ∉ sep) (hc : ']' ∉ sep) (hk : ¬ sep <:+: key)
    (hd : ¬ sep <:+: digits) : ¬ sep <:+: key ++ '[' :: digits ++ [']'] := by
  have hclose : ¬ sep <:+: digits ++ [']'] :=
    not_occurs_append hc hd (not_occurs_cons hs hc (by simpa using hs))
  rw [List.append_assoc]
  exact not_occurs_append ho hk (not_occurs_cons hs ho hclose)

/-- A path that is cut between the brackets of its first index has a bracket that is not closed. -/
theorem readAll_cut_index (hs : sep ≠ []) (ho : '[' ∉ sep) (hk : ¬ sep <:+: key) (hne : key ≠ [])
    (hko : '[' ∉ key) (hkc : ']' ∉ key) (hd : IsDigits digits) (h : sep <:+: digits) (rest : List Char) :
    readAll (splitOn sep (key ++ '[' :: digits ++ rest)) = .error .unclosedBracket := by
  obtain ⟨front, back, rfl, hcut⟩ := exists_cutsBehind hs h
  have hfront : CutsBehind sep ('[' :: front) := by
    refine cutsBehind_cons.2 ⟨fun hp => ?_, hcut⟩
    exact hs (List.prefix_nil.1 (starts_of_not_mem (a := []) ho hp))
  have hsplit : splitOn sep (key ++ '[' :: (front ++ sep ++ back) ++ rest) =
      (key ++ '[' :: front) :: splitOn sep (back ++ rest) := by
    rw [splitOn_eq_pieces hs, splitOn_eq_pieces hs, ← pieces_append hs (cutsBehind_append ho hk hfront)]
    simp
  have hopen : ']' ∉ front := fun hm => hd.not_close (by simp [hm])
  refine readAll_eq_error_iff.2 ⟨[], key ++ '[' :: front, splitOn sep (back ++ rest), trivial, ?_, ?_⟩
  · exact .group hko (bracketed_cons front) hkc (.inl hne) (.unclosed hopen)
  · rw [hsplit]
    rfl

end KeyPath

namespace Settings

open KeyPath

/-- With a valid separator, a key with an index is read as the key and the index, unless the separator occurs
in the index: there the path has a bracket that is not closed. -/
theorem parse_indexed {s : Settings} (hs : s.faults = []) (key : String) (hne : key ≠ "")
    (ho : '[' ∉ key.toList) (hc : ']' ∉ key.toList) (hk : ¬ s.keySeparator.toList <:+: key.toList) (n : Nat) :
    (¬ s.keySeparator.toList <:+: (toString n).toList →
      KeyPath.parse (key ++ "[" ++ toString n ++ "]") s.keySeparator =
        .ok ⟨[.key key, .index (toString n)]⟩) ∧
    (s.keySeparator.toList <:+: (toString n).toList →
      KeyPath.parse (key ++ "[" ++ toString n ++ "]") s.keySeparator =
        .error (.chunk (key ++ "[" ++ toString n ++ "]") .unclosedBracket)) := by
  obtain ⟨hsep, hbrackets, -⟩ := (faults_eq_nil_iff s).1 hs
  have hsep : s.keySeparator.toList ≠ [] := by simpa using hsep
  have hopen : '[' ∉ s.keySeparator.toList := fun hm => (hbrackets _ hm).1 rfl
  have hclose : ']' ∉ s.keySeparator.toList := fun hm => (hbrackets _ hm).2 rfl
  have hdigits : IsDigits (toString n).toList := isDigits_toString n
  have htext : (key ++ "[" ++ toString n ++ "]").toList =
      key.toList ++ '[' :: (toString n).toList ++ [']'] := by simp
  constructor
  · intro hd
    refine parse_eq_ok_iff.2 ⟨⟨?_, ?_⟩, by simp [render, Segment.appendTo]⟩
    · rw [List.forall_mem_cons, List.forall_mem_singleton]
      exact ⟨⟨hne, ho, hc⟩, isDigits_iff.1 hdigits⟩
    · have hchunk : chunkTexts [.key key, .index (toString n)] =
          [key.toList ++ '[' :: (toString n).toList ++ [']']] := by
        simp [chunkTexts, chunks, Segment.chars]
      rw [hchunk]
      exact .inr (not_occurs_bracketed hsep hopen hclose hk hd)
  · intro hd
    refine parse_eq_error_iff.2 (.inr ⟨by simp, _, ?_, rfl⟩)
    rw [htext]
    exact readAll_cut_index hsep hopen hk (by simpa using hne) ho hc hdigits hd [']']

/-- The separator `55` stands neither in `a5` nor in `5`, but it does in `155`. -/
theorem parse_indexed_fives :
    (⟨"55", "pl-PL"⟩ : Settings).faults = [] ∧
      KeyPath.parse "a5[5]" "55" = .ok ⟨[.key "a5", .index "5"]⟩ ∧
      KeyPath.parse "a5[155]" "55" = .error (.chunk "a5[155]" .unclosedBracket) := by
  have hs : (⟨"55", "pl-PL"⟩ : Settings).faults = [] := by decide
  have h := parse_indexed hs "a5" (by decide) (by decide) (by decide) (by decide)
  exact ⟨hs, (h 5).1 (by decide), (h 155).2 (by decide)⟩

/-- Not every valid separator leaves every index readable: with the separator `1`, `mode[1]` is no path. -/
theorem not_forall_parse_indexed :
    ¬ ∀ (s : Settings) (key : String) (n : Nat), s.faults = [] → key ≠ "" → '[' ∉ key.toList →
      ']' ∉ key.toList → ¬ s.keySeparator.toList <:+: key.toList →
        KeyPath.parse (key ++ "[" ++ toString n ++ "]") s.keySeparator =
          .ok ⟨[.key key, .index (toString n)]⟩ := by
  intro h
  have hmode : KeyPath.parse "mode[1]" "1" = .ok ⟨[.key "mode", .index "1"]⟩ :=
    h ⟨"1", "pl"⟩ "mode" 1 (by decide) (by decide) (by decide) (by decide) (by decide)
  have hread : KeyPath.parse "mode[1]" "1" = .error (.chunk "mode[1]" .unclosedBracket) := by rfl
  cases hread.symm.trans hmode

end Settings

end TripLocale
