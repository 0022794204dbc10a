/-
Lower case within ASCII and from outside it. A character of ASCII becomes its small letter and nothing else
(`lowerBetween_of_ascii`), and among the characters that become something of ASCII all others are the Kelvin sign
and the dotted capital I (`eq_of_mem_lowerBetween`); so every other letter of ASCII comes only from itself and
from its capital.
-/
import TripLocale.Text.Lowercase

namespace TripLocale.Text

/-! ## The table -/

/-- A code point is left as it is or moved by one run of the table. -/
theorem lowerCode_cases (n : Nat) (rs : List CapitalRun) :
    lowerCode n rs = n ∨ ∃ r ∈ rs, r.first ≤ n ∧ n ≤ r.last ∧ lowerCode n rs = r.lower + (n - r.first) := by
  induction rs with
  | nil => exact .inl rfl
  | cons r rs ih =>
    unfold lowerCode
    split
    · exact ih.imp_right fun ⟨r, hr, h⟩ => ⟨r, .tail _ hr, h⟩
    split
    · next h =>
      simp only [CapitalRun.has, Bool.and_eq_true, decide_eq_true_eq] at h
      exact .inr ⟨r, .head _, h.1.1, h.1.2, rfl⟩
    · exact .inl rfl

/-- The small letters of a run are characters on one side of the surrogates, and those of capitals outside ASCII
lie outside it too, the letter of the Kelvin sign apart. -/
theorem capitalRuns_small : ∀ r ∈ capitalRuns,
    (r.lower + (r.last - r.first) < 0xD800 ∨ 0xDFFF < r.lower ∧ r.lower + (r.last - r.first) < 0x110000) ∧
      (r.last < 0x80 ∨ 0x80 ≤ r.lower ∨ r.first = r.last ∧ r.lower = 'k'.toNat) := by
  decide +kernel

/-! ## One character -/

/-- A letter of ASCII is the small letter of itself and of its capital. -/
theorem toLower_eq_iff {c x : Char} (ha : 'a' ≤ x) (hz : x ≤ 'z') :
    c.toLower = x ↔ c = x ∨ c = x.toUpper := by
  have hx : 97 ≤ x.toNat := ha
  have hx' : x.toNat ≤ 122 := hz
  have hup : x.toUpper.toNat = x.toNat - 32 := by
    have hsmall : x.toUpper = ⟨x.val + ('A'.val - 'a'.val), _⟩ := dif_pos ⟨ha, hz⟩
    rw [hsmall]
    show (x.val + ('A'.val - 'a'.val)).toNat = _
    rw [UInt32.toNat_add]
    show (x.toNat + 4294967264) % 4294967296 = _
    omega
  rw [← Char.toNat_inj, ← Char.toNat_inj, ← Char.toNat_inj, hup]
  by_cases h : c.val ≥ 'A'.val ∧ c.val ≤ 'Z'.val
  · have hc : 65 ≤ c.toNat := h.1
    have hc' : c.toNat ≤ 90 := h.2
    have hlow : c.toLower.toNat = c.toNat + 32 := by
      have hcapital : c.toLower = ⟨c.val + ('a'.val - 'A'.val), _⟩ := dif_pos h
      rw [hcapital]
      show (c.val + ('a'.val - 'A'.val)).toNat = _
      rw [UInt32.toNat_add]
      show (c.toNat + 32) % 4294967296 = _
      omega
    omega
  · have hc : ¬ (65 ≤ c.toNat ∧ c.toNat ≤ 90) := h
    have hother : c.toLower = c := dif_neg h
    rw [hother]
    omega

variable {before after : List Char} {c x : Char}

/-- What holds of the characters of ASCII one by one. -/
theorem forall_ascii {P : Char → Prop} (h : ∀ n < 0x80, P (Char.ofNat n)) : ∀ c : Char, c.toNat < 0x80 → P c :=
  fun c hc => Char.ofNat_toNat c ▸ h c.toNat hc

theorem lowerChar_of_ascii (h : c.toNat < 0x80) : lowerChar c = [c.toLower] :=
  forall_ascii (P := fun c => lowerChar c = [c.toLower]) (by decide +kernel) c h

/-- What a character outside ASCII becomes lies outside it too, apart from an `i` and a `k`. -/
theorem eq_of_mem_lowerChar (hc : 0x80 ≤ c.toNat) (hx : x ∈ lowerChar c) (h : x.toNat < 0x80) :
    x = 'i' ∨ x = 'k' := by
  unfold lowerChar at hx
  split at hx
  · rcases List.mem_cons.1 hx with rfl | hx
    · exact .inl rfl
    · obtain rfl := List.mem_singleton.1 hx
      exact absurd h (by decide)
  · obtain rfl := List.mem_singleton.1 hx
    rcases lowerCode_cases c.toNat capitalRuns with hm | ⟨r, hr, hfirst, hlast, hm⟩
    · rw [hm, Char.ofNat_toNat] at h
      omega
    · obtain ⟨hvalid, hsmall⟩ := capitalRuns_small r hr
      have hscalar : (lowerCode c.toNat capitalRuns).isValidChar := by
        show _ < 0xD800 ∨ 0xDFFF < _ ∧ _ < 0x110000
        omega
      have hx : (Char.ofNat (lowerCode c.toNat capitalRuns)).toNat = lowerCode c.toNat capitalRuns := by
        rw [Char.ofNat, dif_pos hscalar]
        rfl
      rw [hx] at h
      rcases hsmall with hs | hs | ⟨heq, hs⟩
      · omega
      · omega
      · right
        rw [hm, hs, show c.toNat - r.first = 0 by omega]
        rfl

theorem lowerChar_ne_nil (c : Char) : lowerChar c ≠ [] := by
  unfold lowerChar
  split <;> exact List.cons_ne_nil _ _

/-! ## A character in a text -/

theorem lowerBetween_of_ascii (before after : List Char) (h : c.toNat < 0x80) :
    lowerBetween before c after = [c.toLower] := by
  have hc : c ≠ 'Σ' := by
    rintro rfl
    exact absurd h (by decide)
  rw [lowerBetween, if_neg (by simp [hc]), lowerChar_of_ascii h]

theorem eq_of_mem_lowerBetween (hc : 0x80 ≤ c.toNat) (hx : x ∈ lowerBetween before c after) (h : x.toNat < 0x80) :
    x = 'i' ∨ x = 'k' := by
  unfold lowerBetween at hx
  split at hx
  · obtain rfl := List.mem_singleton.1 hx
    exact absurd h (by decide)
  · exact eq_of_mem_lowerChar hc hx h

theorem lowerBetween_ne_nil (before : List Char) (c : Char) (after : List Char) :
    lowerBetween before c after ≠ [] := by
  unfold lowerBetween
  split
  · exact List.cons_ne_nil _ _
  · exact lowerChar_ne_nil c

end TripLocale.Text
