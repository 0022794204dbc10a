/-
Trimming takes the blanks around a text off and nothing else: `trimBlanks cs = ts` exactly when `ts` has no blank
at its ends and `cs` is `ts` between blanks (`trimBlanks_eq_iff`). A text is cut behind characters of one kind where
the first of another kind stands (`takeWhile_front`, `dropWhile_front`).
-/
import Mathlib.Data.List.DropRight
import TripLocale.Text.Blank

namespace TripLocale.Text

/-! ## The front of a text -/

variable {p : Char → Bool} {front rest : List Char}

theorem takeWhile_front (hf : ∀ c ∈ front, p c = true) (hr : ∀ c ∈ rest.head?, p c = false) :
    (front ++ rest).takeWhile p = front := by
  rw [List.takeWhile_append_of_pos hf]
  cases rest with
  | nil => rw [List.takeWhile_nil, List.append_nil]
  | cons c cs => rw [List.takeWhile_cons_of_neg (by simpa using hr), List.append_nil]

theorem dropWhile_front (hf : ∀ c ∈ front, p c = true) (hr : ∀ c ∈ rest.head?, p c = false) :
    (front ++ rest).dropWhile p = rest := by
  rw [List.dropWhile_append_of_pos hf]
  cases rest with
  | nil => rfl
  | cons c cs => exact List.dropWhile_cons_of_neg (by simpa using hr)

/-! ## Blanks -/

/-- No blank stands at the head of the text or at its end. -/
structure Unpadded (cs : List Char) : Prop where
  head : ∀ c ∈ cs.head?, isBlank c = false
  last : ∀ c ∈ cs.getLast?, isBlank c = false

/-- Blanks around a text are taken off. -/
theorem trimBlanks_append {ts back : List Char} (ht : Unpadded ts) (hf : ∀ c ∈ front, isBlank c = true)
    (hb : ∀ c ∈ back, isBlank c = true) : trimBlanks (front ++ ts ++ back) = ts := by
  show ((front ++ ts ++ back).dropWhile isBlank).rdropWhile isBlank = ts
  rw [List.append_assoc]
  by_cases hts : ts = []
  -- nothing is left between the blanks
  · rw [hts, List.nil_append, List.dropWhile_append_of_pos hf, List.dropWhile_eq_nil_iff.2 hb]
    rfl
  · have hhead : ∀ c ∈ (ts ++ back).head?, isBlank c = false := by
      rw [List.head?_append_of_ne_nil _ hts]
      exact ht.head
    have hlast : ∀ c ∈ ts.reverse.head?, isBlank c = false := by
      rw [List.head?_reverse]
      exact ht.last
    rw [dropWhile_front hf hhead, List.rdropWhile, List.reverse_append, dropWhile_front (by simpa using hb) hlast,
      List.reverse_reverse]

/-- Trimming finds the blanks around a text. -/
theorem exists_blanks (cs : List Char) : ∃ front back, cs = front ++ trimBlanks cs ++ back ∧
    (∀ c ∈ front, isBlank c = true) ∧ ∀ c ∈ back, isBlank c = true := by
  have htrim : trimBlanks cs = (cs.dropWhile isBlank).rdropWhile isBlank := rfl
  refine ⟨cs.takeWhile isBlank, (cs.dropWhile isBlank).rtakeWhile isBlank, ?_, fun c => List.mem_takeWhile_imp,
    fun c => List.mem_rtakeWhile_imp⟩
  rw [htrim, List.append_assoc, List.rdropWhile_append_rtakeWhile, List.takeWhile_append_dropWhile]

/-- What is left has no blank at its ends. -/
theorem unpadded_trimBlanks (cs : List Char) : Unpadded (trimBlanks cs) := by
  constructor
  · intro c hc
    obtain ⟨rest, hrest⟩ : trimBlanks cs <+: cs.dropWhile isBlank := List.rdropWhile_prefix isBlank _
    have hhead : (cs.dropWhile isBlank).head? = some c := by
      rw [← hrest]
      exact List.mem_head?_append_of_mem_head? hc
    have hnot := List.head?_dropWhile_not isBlank cs
    rwa [hhead] at hnot
  · intro c hc
    obtain ⟨hne, rfl⟩ := List.mem_getLast?_eq_getLast hc
    exact Bool.eq_false_iff.2 (List.rdropWhile_last_not isBlank _ hne)

theorem trimBlanks_eq_iff {cs ts : List Char} : trimBlanks cs = ts ↔
    Unpadded ts ∧ ∃ front back, cs = front ++ ts ++ back ∧
      (∀ c ∈ front, isBlank c = true) ∧ ∀ c ∈ back, isBlank c = true := by
  constructor
  · rintro rfl
    exact ⟨unpadded_trimBlanks cs, exists_blanks cs⟩
  · rintro ⟨ht, front, back, rfl, hf, hb⟩
    exact trimBlanks_append ht hf hb

end TripLocale.Text
