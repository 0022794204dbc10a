/-
Which segments are positions: those whose text is the numeral that the printer writes for a number of 64 bits,
in brackets or plain (`Segment.index?_exact`). There are four ways not to be one: to be empty, to hold something
other than a digit, to begin with a zero before another digit, and to be the numeral of a larger number.
-/
import TripLocale.KeyPath.Basic
import TripLocale.Proofs.Text.Numeral

namespace TripLocale

namespace Text

/-- The ways not to be a numeral as the printer writes it. -/
theorem isCanonical_eq_false_iff {ds : List Char} :
    isCanonical ds = false ↔ ds = [] ∨ (∃ c ∈ ds, c.isDigit = false) ∨ ∃ c cs, ds = '0' :: c :: cs := by
  have hzero : (ds == ['0'] || ds.head? != some '0') = false ↔ ∃ c cs, ds = '0' :: c :: cs := by
    match ds with
    | [] => simp
    | [d] => simp
    | d :: c :: cs => simp
  rw [isCanonical, Bool.and_eq_false_iff, Bool.and_eq_false_iff, hzero, List.all_eq_false, or_assoc]
  simp

/-- A text is no position exactly when it is no numeral as the printer writes it, or that of a number beyond
64 bits. -/
theorem index?_eq_none_iff {ds : List Char} :
    index? ds = none ↔ ds = [] ∨ (∃ c ∈ ds, c.isDigit = false) ∨ (∃ c cs, ds = '0' :: c :: cs) ∨
      ∃ n, Nat.pow 2 64 ≤ n ∧ ds = Nat.toDigits 10 n := by
  have hways : index? ds = none ↔ isCanonical ds = false ∨ ∃ n, Nat.pow 2 64 ≤ n ∧ ds = Nat.toDigits 10 n := by
    constructor
    · intro h
      cases hc : isCanonical ds with
      | false => exact .inl rfl
      | true =>
        right
        refine ⟨ofDigits ds, Nat.le_of_not_lt fun hlt => ?_, isCanonical_iff.1 hc⟩
        have hsome := index?_eq_some_iff.2 ⟨decide_eq_true hlt, isCanonical_iff.1 hc⟩
        rw [h] at hsome
        cases hsome
    · intro h
      rw [Option.eq_none_iff_forall_ne_some]
      intro n hn
      obtain ⟨hfits, hds⟩ := index?_eq_some_iff.1 hn
      rcases h with h | ⟨m, hm, hdm⟩
      · rw [hds, isCanonical_iff.2 (by rw [ofDigits_toDigits])] at h
        cases h
      · have hnm : n = m := by rw [← ofDigits_toDigits n, ← hds, hdm, ofDigits_toDigits]
        exact absurd (of_decide_eq_true hfits) (hnm ▸ Nat.not_lt.2 hm)
  rw [hways, isCanonical_eq_false_iff, or_assoc, or_assoc]

end Text

namespace Segment

/-- A segment is the position `i` exactly when its text is the numeral of `i` and `i` has at most 64
bits. -/
theorem index?_eq_some_iff {s : Segment} {i : Nat} :
    s.index? = some i ↔ i < Nat.pow 2 64 ∧ s.text = toString i := by
  rw [Segment.index?, Text.index?_eq_some_iff, Text.fits, decide_eq_true_eq,
    ← String.toList_inj, ← Nat.toList_repr]
  rfl

/-- Reading a segment as a position undoes the printing of numbers of 64 bits and nothing else: the empty text,
a sign or any other character that is no digit, a leading zero and a number beyond 64 bits are refused. -/
theorem index?_exact (s : Segment) :
    (∀ n, s.index? = some n ↔ n < Nat.pow 2 64 ∧ s.text = toString n) ∧
    (s.index? = none ↔ s.text = "" ∨ (∃ c ∈ s.text.toList, c.isDigit = false) ∨
      (∃ c cs, s.text.toList = '0' :: c :: cs) ∨ ∃ n, Nat.pow 2 64 ≤ n ∧ s.text = toString n) := by
  refine ⟨fun n => index?_eq_some_iff, ?_⟩
  have htext : ∀ n, s.text.toList = Nat.toDigits 10 n ↔ s.text = toString n := fun n => by
    rw [← Nat.toList_repr, String.toList_inj]
    rfl
  rw [index?, Text.index?_eq_none_iff, String.toList_eq_nil_iff]
  simp only [htext]

end Segment

end TripLocale
