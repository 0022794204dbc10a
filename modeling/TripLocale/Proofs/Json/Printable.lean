/-
The text of a JSON value has no control characters: no line feed and no other character below the space
(`space_le_of_mem_render`). In a string they are escaped, and a number is digits, a point and a sign.
-/
import Mathlib.Tactic.SplitIfs
import TripLocale.Json.Printer
import TripLocale.Proofs.Text.Numeral

namespace TripLocale

open TripLocale.Text

/-! ## Numbers -/

namespace Decimal

theorem isDigit_or_point_of_mem_positional {digits : Nat} {places : Int} {c : Char}
    (h : c ∈ positional digits places) : c.isDigit = true ∨ c = '.' := by
  have hzero : ∀ {n : Nat}, c ∈ List.replicate n '0' → c.isDigit = true := fun h =>
    (List.eq_of_mem_replicate h) ▸ rfl
  unfold positional at h
  dsimp only at h
  split_ifs at h
  · exact .inl (isDigit_of_mem_toDigits h)
  · rcases List.mem_append.1 h with h | h
    · exact .inl (isDigit_of_mem_toDigits h)
    · exact .inl (hzero h)
  · rcases List.mem_append.1 h with h | h
    · exact .inl (isDigit_of_mem_toDigits (List.mem_of_mem_take h))
    · rcases List.mem_cons.1 h with h | h
      · exact .inr h
      · exact .inl (isDigit_of_mem_toDigits (List.mem_of_mem_drop h))
  · rcases List.mem_append.1 h with h | h
    · rcases List.mem_cons.1 h with h | h
      · exact .inl (h ▸ rfl)
      · rcases List.mem_cons.1 h with h | h
        · exact .inr h
        · exact .inl (hzero h)
    · exact .inl (isDigit_of_mem_toDigits h)

end Decimal

namespace Json

theorem Number.isDigit_or_mark_of_mem_text {n : Number} {c : Char} (h : c ∈ n.text) :
    c.isDigit = true ∨ c = '.' ∨ c = '-' := by
  have hreal : ∀ {x : Decimal.Binary64}, c ∈ x.text → c.isDigit = true ∨ c = '.' := fun {x} h => by
    unfold Decimal.Binary64.text at h
    split at h
    · exact .inl (List.mem_singleton.1 h ▸ rfl)
    · exact Decimal.isDigit_or_point_of_mem_positional h
  cases n with
  | integer value =>
    cases value with
    | ofNat m =>
      have hm : c ∈ m.repr.toList := h
      rw [Nat.toList_repr] at hm
      exact .inl (isDigit_of_mem_toDigits hm)
    | negSucc m =>
      have hm : c ∈ ("-" ++ (m + 1).repr).toList := h
      rw [String.toList_append, Nat.toList_repr] at hm
      rcases List.mem_append.1 hm with hm | hm
      · exact .inr (.inr (List.mem_singleton.1 hm))
      · exact .inl (isDigit_of_mem_toDigits hm)
  | real negative magnitude =>
    rw [text] at h
    split at h
    · rcases List.mem_cons.1 h with h | h
      · exact .inr (.inr h)
      · exact (hreal h).imp_right .inl
    · exact (hreal h).imp_right .inl

/-! ## Strings -/

/-- No character is below the space. -/
def noControls (cs : List Char) : Bool := cs.all fun c => 0x20 ≤ c.toNat

theorem noControls_iff {cs : List Char} : noControls cs = true ↔ ∀ c ∈ cs, 0x20 ≤ c.toNat := by
  simp [noControls]

theorem space_le_hexDigit {n : Nat} (h : n < 16) : 0x20 ≤ (hexDigit n).toNat := by
  decide +revert

/-- Controls are escaped, and escapes are written without them. -/
theorem noControls_escapedChar (c : Char) : noControls (escapedChar c) = true := by
  unfold escapedChar
  split_ifs with hq hn hr ht hb hf hc
  · simp only [Bool.or_eq_true, decide_eq_true_eq] at hq
    rcases hq with rfl | rfl
    · rfl
    · rfl
  · rfl
  · rfl
  · rfl
  · rfl
  · rfl
  · have hhigh := space_le_hexDigit (n := c.toNat / 16) (by omega)
    have hlow := space_le_hexDigit (n := c.toNat % 16) (by omega)
    simp [noControls, hhigh, hlow]
  · rw [noControls_iff, List.forall_mem_singleton]
    omega

theorem noControls_stringChars (s : String) : noControls (stringChars s) = true := by
  rw [noControls_iff, stringChars, List.forall_mem_append, List.forall_mem_cons,
    List.forall_mem_singleton]
  refine ⟨⟨by decide, fun x hx => ?_⟩, by decide⟩
  obtain ⟨c, -, hx⟩ := List.mem_flatMap.1 hx
  exact noControls_iff.1 (noControls_escapedChar c) x hx

/-! ## Values -/

theorem Token.noControls_chars (t : Token String Number) : noControls t.chars = true := by
  cases t with
  | number n =>
    refine noControls_iff.2 fun c hc => ?_
    rcases Number.isDigit_or_mark_of_mem_text hc with hc | rfl | rfl
    · exact Nat.le_trans (by decide) (Char.isDigit_iff_toNat.1 hc).1
    · decide
    · decide
  | string s => exact noControls_stringChars s
  | bool b =>
    cases b
    · rfl
    · rfl
  | _ => rfl

/-- No control character stands in the text of a value. -/
theorem space_le_of_mem_render {j : Json} {c : Char} (h : c ∈ j.render.toList) : 0x20 ≤ c.toNat := by
  rw [render, String.toList_ofList] at h
  obtain ⟨t, -, ht⟩ := List.mem_flatMap.1 h
  exact noControls_iff.1 (Token.noControls_chars t) c ht

end Json

end TripLocale
