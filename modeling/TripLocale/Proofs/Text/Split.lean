/-
Which lists of pieces a split can give: `splitOn sep cs = ps` exactly when `ps` joined by `sep` is `cs`
and `IsSplit sep ps` holds, that is, `sep` first occurs in every piece but the last, followed by `sep`, at
the end of the piece, and does not occur in the last piece. An empty separator leaves one piece.

The leftmost occurrence is what `pieces` looks for, so both directions follow its recursion; an
occurrence that begins inside a piece ends within the separator behind it, which is why only one
separator has to be looked at. With a separator that does not overlap itself no occurrence begins there, and
two texts joined by it are split each on its own (`Borderless.splitOn_append`).
-/
import TripLocale.Text.Split

namespace TripLocale.Text

/-! ## Occurrences -/

/-- The separator first occurs in `piece` followed by it at the end of `piece`. -/
def CutsBehind (sep piece : List Char) : Prop :=
  ∀ i < piece.length, ¬ sep <+: (piece ++ sep).drop i

instance (sep piece : List Char) : Decidable (CutsBehind sep piece) :=
  inferInstanceAs (Decidable (∀ i < piece.length, ¬ sep <+: (piece ++ sep).drop i))

theorem cutsBehind_nil (sep : List Char) : CutsBehind sep [] := fun _ h => absurd h (Nat.not_lt_zero _)

theorem cutsBehind_cons {sep piece : List Char} {c : Char} :
    CutsBehind sep (c :: piece) ↔ ¬ sep <+: c :: (piece ++ sep) ∧ CutsBehind sep piece := by
  constructor
  · intro h
    exact ⟨h 0 (Nat.zero_lt_succ _), fun i hi => h (i + 1) (Nat.succ_lt_succ hi)⟩
  · rintro ⟨h0, h⟩ i hi
    cases i with
    | zero => exact h0
    | succ i => exact h i (Nat.lt_of_succ_lt_succ hi)

/-- A piece before a cut does not contain the separator. -/
theorem CutsBehind.not_occurs {sep piece : List Char} (hs : sep ≠ []) (h : CutsBehind sep piece) :
    ¬ sep <:+: piece := by
  rintro ⟨front, rest, rfl⟩
  have hpos : 0 < sep.length := List.length_pos_iff.2 hs
  refine h front.length (by simp; omega) ?_
  rw [List.append_assoc, List.append_assoc, List.drop_left]
  exact List.prefix_append _ _

/-- An occurrence at the head of a text that goes on behind a separator ends within that separator. -/
theorem starts_of_starts_append {sep p rest : List Char} (h : sep <+: p ++ sep ++ rest) :
    sep <+: p ++ sep :=
  List.prefix_of_prefix_length_le h (List.prefix_append _ _) (by simp)

/-! ## Splits -/

/-- The lists of pieces that a split at the leftmost occurrences of `sep` gives. -/
def IsSplit (sep : List Char) : List (List Char) → Prop
  | [] => False
  | [p] => sep = [] ∨ ¬ sep <:+: p
  | p :: q :: ps => sep ≠ [] ∧ CutsBehind sep p ∧ IsSplit sep (q :: ps)

theorem IsSplit.ne_nil {sep : List Char} {ps : List (List Char)} (h : IsSplit sep ps) : ps ≠ [] := by
  rintro rfl
  exact h

/-- A split by a separator of at least one character, piece by piece. -/
theorem isSplit_iff {sep : List Char} (hs : sep ≠ []) {ps : List (List Char)} :
    IsSplit sep ps ↔ ps ≠ [] ∧ (∀ p ∈ ps.dropLast, CutsBehind sep p) ∧ ∀ p ∈ ps.getLast?, ¬ sep <:+: p := by
  induction ps with
  | nil => simp [IsSplit]
  | cons p ps ih =>
    cases ps with
    | nil => simp [IsSplit, hs]
    | cons q ps =>
      have hstep : IsSplit sep (p :: q :: ps) ↔ CutsBehind sep p ∧ IsSplit sep (q :: ps) := and_iff_right hs
      rw [hstep, ih, List.dropLast_cons_of_ne_nil (List.cons_ne_nil q ps), List.getLast?_cons_cons,
        List.forall_mem_cons]
      simp [and_assoc]

theorem intercalate_cons_cons (sep p q : List Char) (ps : List (List Char)) :
    sep.intercalate (p :: q :: ps) = p ++ sep ++ sep.intercalate (q :: ps) := by
  simp [List.intercalate]

theorem pieces_drop (sep : List Char) (skip : Nat) (cs : List Char) :
    pieces sep skip cs = pieces sep 0 (cs.drop skip) := by
  induction cs generalizing skip with
  | nil => cases skip <;> simp [pieces]
  | cons c cs ih =>
    cases skip with
    | zero => rfl
    | succ n => rw [pieces, ih, List.drop_succ_cons]

theorem pieces_cons_of_not_starts {sep cs : List Char} {c : Char} (h : ¬ sep <+: c :: cs) :
    pieces sep 0 (c :: cs) = growFirst c (pieces sep 0 cs) := by
  rw [pieces, if_neg (by rwa [List.isPrefixOf_iff_prefix])]

theorem pieces_separator {sep : List Char} (hs : sep ≠ []) (rest : List Char) :
    pieces sep 0 (sep ++ rest) = [] :: pieces sep 0 rest := by
  obtain ⟨s, sep, rfl⟩ := List.exists_cons_of_ne_nil hs
  rw [List.cons_append, pieces, if_pos (by simp [List.isPrefixOf_iff_prefix]), pieces_drop]
  simp

/-- A piece with its separator is split off. -/
theorem pieces_append {sep p : List Char} (hs : sep ≠ []) (hp : CutsBehind sep p) (rest : List Char) :
    pieces sep 0 (p ++ sep ++ rest) = p :: pieces sep 0 rest := by
  induction p with
  | nil => rw [List.nil_append, pieces_separator hs]
  | cons c p ih =>
    obtain ⟨h0, hp⟩ := cutsBehind_cons.1 hp
    have hnot : ¬ sep <+: c :: (p ++ sep ++ rest) := fun h =>
      h0 (starts_of_starts_append (p := c :: p) (by simpa using h))
    rw [List.cons_append, List.cons_append, pieces_cons_of_not_starts hnot, ih hp]
    rfl

/-- A text without the separator is one piece. -/
theorem pieces_of_not_occurs {sep p : List Char} (hp : ¬ sep <:+: p) : pieces sep 0 p = [p] := by
  induction p with
  | nil => rfl
  | cons c p ih =>
    rw [List.infix_cons_iff, not_or] at hp
    rw [pieces_cons_of_not_starts hp.1, ih hp.2]
    rfl

theorem pieces_intercalate {sep : List Char} (hs : sep ≠ []) {ps : List (List Char)}
    (h : IsSplit sep ps) : pieces sep 0 (sep.intercalate ps) = ps := by
  induction ps with
  | nil => exact absurd h id
  | cons p ps ih =>
    cases ps with
    | nil =>
      have hp : ¬ sep <:+: p := h.resolve_left hs
      simpa [List.intercalate] using pieces_of_not_occurs hp
    | cons q ps =>
      obtain ⟨-, hp, hps⟩ := h
      rw [intercalate_cons_cons, pieces_append hs hp, ih hps]

/-- A character in front of a split, where no separator begins, goes to the first piece. -/
theorem IsSplit.growFirst {sep : List Char} {ps : List (List Char)} {c : Char} (h : IsSplit sep ps)
    (hc : ¬ sep <+: c :: sep.intercalate ps) : IsSplit sep (growFirst c ps) := by
  match ps, h with
  | [p], h =>
    have hc' : ¬ sep <+: c :: p := by simpa [List.intercalate] using hc
    refine h.imp_right fun hp => ?_
    rw [List.infix_cons_iff, not_or]
    exact ⟨hc', hp⟩
  | p :: q :: ps, ⟨hs, hp, hps⟩ =>
    refine ⟨hs, cutsBehind_cons.2 ⟨fun h0 => hc ?_, hp⟩, hps⟩
    rw [intercalate_cons_cons]
    exact h0.trans (by simp [List.prefix_append])

theorem isSplit_pieces {sep : List Char} (hs : sep ≠ []) (skip : Nat) (cs : List Char) :
    IsSplit sep (pieces sep skip cs) := by
  induction cs generalizing skip with
  | nil => cases skip <;> exact .inr (by simpa using hs)
  | cons c cs ih =>
    cases skip with
    | succ n => exact ih n
    | zero =>
      rw [pieces]
      split
      -- the piece before a separator that begins here is empty
      · obtain ⟨p, ps, he⟩ := List.exists_cons_of_ne_nil (pieces_ne_nil sep (sep.length - 1) cs)
        have := ih (sep.length - 1)
        rw [he] at this ⊢
        exact ⟨hs, cutsBehind_nil sep, this⟩
      · next h =>
        refine (ih 0).growFirst ?_
        rwa [intercalate_pieces hs, List.drop_zero, ← List.isPrefixOf_iff_prefix]

/-- What a split gives: pieces that join to the text and that stand between leftmost separators. -/
theorem splitOn_eq_iff {sep cs : List Char} {ps : List (List Char)} :
    splitOn sep cs = ps ↔ IsSplit sep ps ∧ sep.intercalate ps = cs := by
  constructor
  · rintro rfl
    refine ⟨?_, intercalate_splitOn sep cs⟩
    unfold splitOn
    split
    · next h => exact .inl (by simpa using h)
    · next h => exact isSplit_pieces (by simpa using h) 0 cs
  · rintro ⟨h, rfl⟩
    unfold splitOn
    split
    · next hs =>
      have hs : sep = [] := by simpa using hs
      match ps, h with
      | [p], _ => simp [List.intercalate]
      | _ :: _ :: _, h => exact absurd hs h.1
    · next hs => exact pieces_intercalate (by simpa using hs) h

/-- No piece of a split contains the separator. -/
theorem not_occurs_of_mem_splitOn {sep cs piece : List Char} (hs : sep ≠ []) (h : piece ∈ splitOn sep cs) :
    ¬ sep <:+: piece := by
  obtain ⟨ps, p, hp⟩ := (List.eq_nil_or_concat (splitOn sep cs)).resolve_left (splitOn_ne_nil sep cs)
  rw [List.concat_eq_append] at hp
  obtain ⟨-, hcuts, hlast⟩ := (isSplit_iff hs).1 (splitOn_eq_iff.1 hp).1
  rw [hp, List.mem_append, List.mem_singleton] at h
  rcases h with h | rfl
  · exact (hcuts piece (by simpa using h)).not_occurs hs
  · exact hlast piece (by simp)

/-! ## Splitting a longer text -/

theorem splitOn_eq_pieces {sep : List Char} (hs : sep ≠ []) (cs : List Char) :
    splitOn sep cs = pieces sep 0 cs := if_neg (by simpa using hs)

/-- More text changes the last piece only, and may be cut itself. -/
theorem splitOn_append {sep c : List Char} {cs : List (List Char)} (hs : sep ≠ [])
    (h : IsSplit sep (cs ++ [c])) (rest : List Char) :
    splitOn sep (sep.intercalate (cs ++ [c]) ++ rest) = cs ++ splitOn sep (c ++ rest) := by
  induction cs with
  | nil => simp [List.intercalate]
  | cons p cs ih =>
    obtain ⟨q, ps, hq⟩ := List.exists_cons_of_ne_nil (l := cs ++ [c]) (by simp)
    rw [List.cons_append, hq] at h ⊢
    rw [hq] at ih
    rw [intercalate_cons_cons, List.append_assoc, splitOn_eq_pieces hs, pieces_append hs h.2.1,
      ← splitOn_eq_pieces hs, ih h.2.2, List.cons_append]

/-! ## Separators that do not overlap themselves -/

/-- No beginning of the separator but the whole of it is also its end, so two occurrences never overlap. -/
def Borderless (sep : List Char) : Prop :=
  ∀ border, border <+: sep → border <:+ sep → border = [] ∨ border = sep

theorem borderless_iff {sep : List Char} :
    Borderless sep ↔ ∀ n < sep.length, 0 < n → ¬ sep.take n <:+ sep := by
  constructor
  · intro hb n hn h0 hsuf
    have hlen : (sep.take n).length = n := by
      rw [List.length_take]
      omega
    rcases hb _ (List.take_prefix n sep) hsuf with he | he
    · rw [he, List.length_nil] at hlen
      omega
    · rw [he] at hlen
      omega
  · intro h border hpre hsuf
    by_cases hnil : border = []
    · exact .inl hnil
    right
    apply hsuf.eq_of_length
    have hle := hsuf.length_le
    have hnot := h border.length
    rw [← List.prefix_iff_eq_take.1 hpre] at hnot
    have hpos : 0 < border.length := List.length_pos_iff.2 hnil
    apply Decidable.byContradiction
    intro hlen
    exact hnot (by omega) hpos hsuf

instance (sep : List Char) : Decidable (Borderless sep) := decidable_of_iff _ borderless_iff.symm

example : Borderless "->".toList ∧ ¬ Borderless "::".toList := by decide

theorem borderless_singleton (x : Char) : Borderless [x] := by
  intro border hpre _
  simpa [List.prefix_cons_iff] using hpre

/-- A piece without such a separator ends at the first one behind it. -/
theorem Borderless.cutsBehind {sep piece : List Char} (hb : Borderless sep) (h : ¬ sep <:+: piece) :
    CutsBehind sep piece := by
  intro i hi hp
  rw [List.drop_append_of_le_length (Nat.le_of_lt hi)] at hp
  by_cases hlen : sep.length ≤ (piece.drop i).length
  · have hin : sep <+: piece.drop i := List.prefix_of_prefix_length_le hp (List.prefix_append ..) hlen
    exact h (hin.isInfix.trans (List.drop_suffix i piece).isInfix)
  -- the occurrence ends within the separator behind the piece, and what they share is a border
  · obtain ⟨border, he⟩ : piece.drop i <+: sep :=
      List.prefix_of_prefix_length_le (List.prefix_append ..) hp (by omega)
    have hpre : border <+: sep := by
      rw [← List.prefix_append_right_inj (piece.drop i), he]
      exact hp
    have hall := congrArg List.length he
    rw [List.length_append, List.length_drop] at hall
    rw [List.length_drop] at hlen
    rcases hb border hpre ⟨_, he⟩ with rfl | rfl
    · rw [List.length_nil] at hall
      omega
    · omega

/-- What stands before and behind such a separator is split on its own. -/
theorem Borderless.splitOn_append {sep : List Char} (hb : Borderless sep) (hs : sep ≠ [])
    (front back : List Char) : splitOn sep (front ++ sep ++ back) = splitOn sep front ++ splitOn sep back := by
  obtain ⟨cs, c, hc⟩ := (List.eq_nil_or_concat (splitOn sep front)).resolve_left (splitOn_ne_nil sep front)
  rw [List.concat_eq_append] at hc
  obtain ⟨hsplit, hjoin⟩ := splitOn_eq_iff.1 hc
  have hlast : ¬ sep <:+: c := ((isSplit_iff hs).1 hsplit).2.2 c (by simp)
  calc splitOn sep (front ++ sep ++ back)
      = splitOn sep (sep.intercalate (cs ++ [c]) ++ (sep ++ back)) := by rw [hjoin, List.append_assoc]
    _ = cs ++ splitOn sep (c ++ sep ++ back) := by rw [Text.splitOn_append hs hsplit, List.append_assoc]
    _ = cs ++ c :: splitOn sep back := by
      rw [splitOn_eq_pieces hs, pieces_append hs (hb.cutsBehind hlast), ← splitOn_eq_pieces hs]
    _ = splitOn sep front ++ splitOn sep back := by rw [hc, List.append_assoc, List.singleton_append]

end TripLocale.Text
