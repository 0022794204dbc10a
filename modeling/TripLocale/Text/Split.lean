/-
Cutting a text at characters and at separators.

`cut? p` cuts at the first character with a property; `after?` takes an opening off; `splitOn` cuts at
the leftmost occurrences of a separator that do not overlap. Cutting loses nothing: the two sides of a
cut, and the pieces of a split joined again, are the text (`cut?_eq_some`, `intercalate_splitOn`).
-/
namespace TripLocale.Text

/-! ## One cut -/

/-- The text before and after the first character with `p`. -/
def cut? (p : Char → Bool) : List Char → Option (List Char × List Char)
  | [] => none
  | c :: cs => if p c then some ([], cs) else (cut? p cs).map fun (front, rest) => (c :: front, rest)

/-- What follows `opening` at the head of a text. -/
def after? : List Char → List Char → Option (List Char)
  | [], cs => some cs
  | _ :: _, [] => none
  | o :: opening, c :: cs => if o = c then after? opening cs else none

/-- A cut falls at a character with the property, and none before it has it. -/
theorem cut?_eq_some {p : Char → Bool} {cs front rest : List Char}
    (h : cut? p cs = some (front, rest)) :
    ∃ c, p c = true ∧ cs = front ++ c :: rest ∧ ∀ x ∈ front, p x = false := by
  induction cs generalizing front with
  | nil => simp [cut?] at h
  | cons c cs ih =>
    unfold cut? at h
    split at h
    -- the cut is here
    · next hc =>
      obtain ⟨rfl, rfl⟩ := Prod.mk.inj (Option.some.inj h)
      exact ⟨c, hc, rfl, by simp⟩
    -- the cut lies further on, and `c` goes to the front
    · next hc =>
      obtain ⟨⟨f, r⟩, hf, he⟩ := Option.map_eq_some_iff.1 h
      obtain ⟨rfl, rfl⟩ := Prod.mk.inj he
      obtain ⟨x, hx, rfl, hall⟩ := ih hf
      exact ⟨x, hx, rfl, by simpa using ⟨by simpa using hc, hall⟩⟩

/-- There is no cut exactly when no character has the property. -/
theorem cut?_eq_none_iff {p : Char → Bool} {cs : List Char} :
    cut? p cs = none ↔ ∀ c ∈ cs, p c = false := by
  induction cs with
  | nil => simp [cut?]
  | cons c cs ih => by_cases hc : p c = true <;> simp [cut?, hc, ih]

/-- Taking an opening off succeeds exactly on the texts that have it. -/
theorem after?_eq_some_iff {opening cs rest : List Char} :
    after? opening cs = some rest ↔ cs = opening ++ rest := by
  induction opening generalizing cs with
  | nil => simp [after?]
  | cons o opening ih =>
    cases cs with
    | nil => simp [after?]
    | cons c cs => by_cases h : o = c <;> simp [after?, h, ih, eq_comm]

/-! ## Splitting -/

/-- A character put in front of the first piece. -/
def growFirst (c : Char) : List (List Char) → List (List Char)
  | [] => [[c]]
  | piece :: pieces => (c :: piece) :: pieces

/-- The pieces of a text whose next `skip` characters end a separator. -/
def pieces (sep : List Char) : Nat → List Char → List (List Char)
  | _, [] => [[]]
  | skip + 1, _ :: cs => pieces sep skip cs
  | 0, c :: cs =>
    if sep.isPrefixOf (c :: cs) then [] :: pieces sep (sep.length - 1) cs
    else growFirst c (pieces sep 0 cs)

/-- The pieces of a text between the leftmost occurrences of `sep` that do not overlap. An empty
separator cuts nothing. -/
def splitOn (sep cs : List Char) : List (List Char) :=
  if sep.isEmpty then [cs] else pieces sep 0 cs

theorem growFirst_ne_nil (c : Char) (ps : List (List Char)) : growFirst c ps ≠ [] := by
  cases ps <;> simp [growFirst]

theorem pieces_ne_nil (sep : List Char) (skip : Nat) (cs : List Char) : pieces sep skip cs ≠ [] := by
  induction cs generalizing skip with
  | nil => cases skip <;> simp [pieces]
  | cons c cs ih =>
    cases skip with
    | succ n => simpa [pieces] using ih n
    | zero =>
      unfold pieces
      split
      · simp
      · exact growFirst_ne_nil c _

/-- A text has at least one piece. -/
theorem splitOn_ne_nil (sep cs : List Char) : splitOn sep cs ≠ [] := by
  unfold splitOn
  split
  · simp
  · exact pieces_ne_nil sep 0 cs

theorem intercalate_growFirst (sep : List Char) (c : Char) {ps : List (List Char)} (h : ps ≠ []) :
    sep.intercalate (growFirst c ps) = c :: sep.intercalate ps := by
  match ps, h with
  | [p], _ => simp [growFirst, List.intercalate]
  | p :: q :: ps, _ => simp [growFirst, List.intercalate, List.intersperse]

theorem intercalate_pieces {sep : List Char} (hs : sep ≠ []) (skip : Nat) (cs : List Char) :
    sep.intercalate (pieces sep skip cs) = cs.drop skip := by
  induction cs generalizing skip with
  | nil => cases skip <;> simp [pieces, List.intercalate]
  | cons c cs ih =>
    cases skip with
    | succ n => simpa [pieces] using ih n
    | zero =>
      unfold pieces
      split
      -- a separator begins here: its first character is `c`, and the others are skipped
      · next hp =>
        obtain ⟨rest, hr⟩ := List.isPrefixOf_iff_prefix.1 hp
        have hne := pieces_ne_nil sep (sep.length - 1) cs
        have hstep : sep.intercalate ([] :: pieces sep (sep.length - 1) cs) =
            sep ++ sep.intercalate (pieces sep (sep.length - 1) cs) := by
          match pieces sep (sep.length - 1) cs, hne with
          | p :: ps, _ => simp [List.intercalate, List.intersperse]
        rw [hstep, ih]
        match sep, hs, hr with
        | s :: sep, _, hr =>
          obtain ⟨rfl, rfl⟩ := List.cons.inj hr
          simp
      · rw [intercalate_growFirst sep c (pieces_ne_nil sep 0 cs), ih]
        simp

/-- The pieces joined by the separator are the text. -/
theorem intercalate_splitOn (sep cs : List Char) : sep.intercalate (splitOn sep cs) = cs := by
  unfold splitOn
  split
  · simp [List.intercalate]
  · next h => simpa using intercalate_pieces (by simpa using h) 0 cs

end TripLocale.Text
