/-
Number literals: every spelling of a literal is read as that literal (`read?_of_spells`), and it is one run of
letters, digits, signs and points (`isWordChar_of_spells`).

The parts of a literal are read from the left. Each part is told from the next by the character that the next
one begins with, so the lemma for a part allows any text behind it that begins otherwise.
-/
import TripLocale.Proofs.Json.Spelling
import TripLocale.Proofs.Text.Trim

namespace TripLocale.Json.NumberLiteral

open TripLocale.Text

variable {ds rest : List Char}

/-! ## Parts -/

theorem isCanonical_iff_digits : isCanonical ds = true ↔
    ds ≠ [] ∧ (∀ d ∈ ds, d.isDigit = true) ∧ (ds = ['0'] ∨ ds.head? ≠ some '0') := by
  simp [isCanonical, and_assoc]

theorem whole?_append (hd : isCanonical ds = true) (hr : ∀ c ∈ rest.head?, c.isDigit = false) :
    whole? (ds ++ rest) = some (ds, rest) := by
  obtain ⟨hne, hdigits, hzero⟩ := isCanonical_iff_digits.1 hd
  rw [whole?, takeWhile_front hdigits hr, dropWhile_front hdigits hr]
  split
  · exact absurd rfl hne
  · simp at hzero
  · rfl

theorem fraction?_append {fraction : Option (List Char)}
    (hf : ∀ ds, fraction = some ds → ds ≠ [] ∧ ∀ d ∈ ds, d.isDigit = true)
    (hr : ∀ c ∈ rest.head?, c.isDigit = false ∧ c ≠ '.') :
    fraction? (fractionChars fraction ++ rest) = some (fraction, rest) := by
  cases fraction with
  | none =>
    rw [fractionChars, List.nil_append]
    unfold fraction?
    split
    · exact absurd rfl (hr '.' rfl).2
    · rfl
  | some ds =>
    obtain ⟨hne, hdigits⟩ := hf ds rfl
    have hr' : ∀ c ∈ rest.head?, c.isDigit = false := fun c hc => (hr c hc).1
    rw [fractionChars, List.cons_append, fraction?, takeWhile_front hdigits hr', dropWhile_front hdigits hr']
    split
    · exact absurd rfl hne
    · rfl

theorem exponentSign_of_digits (hd : ∀ d ∈ ds, d.isDigit = true) : exponentSign ds = (false, ds) := by
  unfold exponentSign
  split
  · exact absurd (hd '-' (.head _)) (by decide)
  · exact absurd (hd '+' (.head _)) (by decide)
  · rfl

theorem exponent?_cons {e : Char} {cs : List Char} {negative : Bool} (he : e = 'e' ∨ e = 'E')
    (hs : exponentSign cs = (negative, ds)) (hd : ds ≠ [] ∧ ∀ d ∈ ds, d.isDigit = true) :
    exponent? (e :: cs) = some (some (negative, ds)) := by
  have hall : ds.all Char.isDigit = true := List.all_eq_true.2 hd.2
  simp [exponent?, hs, he, hd.1, hall]

theorem exponent?_of_spells {cs : List Char} {exponent : Option (Bool × List Char)}
    (h : SpellsExponent cs exponent)
    (hd : ∀ negative ds, exponent = some (negative, ds) → ds ≠ [] ∧ ∀ d ∈ ds, d.isDigit = true) :
    exponent? cs = some exponent := by
  cases h with
  | none => rfl
  | unsigned he => exact exponent?_cons he (exponentSign_of_digits (hd _ _ rfl).2) (hd _ _ rfl)
  | plus he => exact exponent?_cons he rfl (hd _ _ rfl)
  | minus he => exact exponent?_cons he rfl (hd _ _ rfl)

/-! ## Literals -/

variable {l : NumberLiteral} {cs : List Char}

/-- An exponent begins with its letter. -/
theorem SpellsExponent.head?_eq {exponent : Option (Bool × List Char)} (h : SpellsExponent cs exponent) {c : Char}
    (hc : c ∈ cs.head?) : c = 'e' ∨ c = 'E' := by
  cases h with
  | none => cases hc
  | unsigned he => cases hc; exact he
  | plus he => cases hc; exact he
  | minus he => cases hc; exact he

/-- What follows the digits before the point is no digit. -/
theorem isDigit_head?_fractionChars (fraction : Option (List Char)) {exponent : Option (Bool × List Char)}
    (h : SpellsExponent cs exponent) : ∀ c ∈ (fractionChars fraction ++ cs).head?, c.isDigit = false := by
  cases fraction with
  | none =>
    intro c hc
    rcases h.head?_eq hc with rfl | rfl <;> rfl
  | some ds => simp [fractionChars]

theorem ne_minus_of_isCanonical (h : isCanonical ds = true) (cs : List Char) (hm : ds ++ rest = '-' :: cs) :
    False := by
  obtain ⟨hne, hdigits, -⟩ := isCanonical_iff_digits.1 h
  cases ds with
  | nil => exact hne rfl
  | cons d ds =>
    obtain ⟨rfl, -⟩ := List.cons.inj hm
    exact absurd (hdigits _ (.head _)) (by decide)

/-- Every way to write a literal is read as the literal. -/
theorem read?_of_spells (h : Spells cs l) : read? cs = some l := by
  cases h with
  | @intro l exponent hl he =>
    have hexponent : exponent? exponent = some l.exponent := exponent?_of_spells he hl.exponent
    have hfraction : fraction? (fractionChars l.fraction ++ exponent) = some (l.fraction, exponent) := by
      refine fraction?_append hl.fraction fun c hc => ?_
      rcases he.head?_eq hc with rfl | rfl <;> decide
    have hwhole : whole? (l.whole ++ (fractionChars l.fraction ++ exponent)) =
        some (l.whole, fractionChars l.fraction ++ exponent) :=
      whole?_append hl.whole (isDigit_head?_fractionChars l.fraction he)
    rw [List.append_assoc, List.append_assoc]
    cases hn : l.negative with
    | false =>
      rw [if_neg (by decide), List.nil_append, read?]
      · simp [hwhole, hfraction, hexponent, ← hn]
      -- a digit stands where the sign would
      · exact ne_minus_of_isCanonical hl.whole
    | true =>
      rw [if_pos rfl, List.singleton_append, read?]
      simp [hwhole, hfraction, hexponent, ← hn]

/-! ## The characters of a literal -/

theorem isWordChar_of_isDigit {c : Char} (h : c.isDigit = true) : isWordChar c = true := by
  simp [isWordChar, Char.isAlphanum, h]

theorem SpellsExponent.isWordChar {exponent : Option (Bool × List Char)} (h : SpellsExponent cs exponent)
    (hd : ∀ negative ds, exponent = some (negative, ds) → ds ≠ [] ∧ ∀ d ∈ ds, d.isDigit = true) :
    ∀ c ∈ cs, isWordChar c = true := by
  have hletter : ∀ {e : Char}, e = 'e' ∨ e = 'E' → Json.isWordChar e = true := by
    rintro e (rfl | rfl) <;> rfl
  have hdigits : ∀ negative ds, exponent = some (negative, ds) → ∀ d ∈ ds, Json.isWordChar d = true :=
    fun negative ds hm d hds => isWordChar_of_isDigit ((hd negative ds hm).2 d hds)
  cases h with
  | none => nofun
  | unsigned he => exact List.forall_mem_cons.2 ⟨hletter he, hdigits _ _ rfl⟩
  | plus he => exact List.forall_mem_cons.2 ⟨hletter he, List.forall_mem_cons.2 ⟨rfl, hdigits _ _ rfl⟩⟩
  | minus he => exact List.forall_mem_cons.2 ⟨hletter he, List.forall_mem_cons.2 ⟨rfl, hdigits _ _ rfl⟩⟩

theorem isWordChar_of_spells (h : Spells cs l) : ∀ c ∈ cs, isWordChar c = true := by
  cases h with
  | intro hl he =>
    simp only [List.forall_mem_append]
    refine ⟨⟨⟨?_, fun d hd => ?_⟩, ?_⟩, he.isWordChar hl.exponent⟩
    · split
      · exact List.forall_mem_singleton.2 rfl
      · nofun
    · exact isWordChar_of_isDigit ((isCanonical_iff_digits.1 hl.whole).2.1 d hd)
    · cases hf : l.fraction with
      | none => nofun
      | some ds =>
        exact List.forall_mem_cons.2 ⟨rfl, fun d hd => isWordChar_of_isDigit ((hl.fraction ds hf).2 d hd)⟩

/-- A literal is a run that is none of the three words. -/
theorem wordToken?_of_spells (h : Spells cs l) : wordToken? cs = some (.number l.value?) := by
  have hread := read?_of_spells h
  have hword : ∀ {w : List Char}, read? w = none → cs ≠ w := by
    rintro w hw rfl
    cases hread.symm.trans hw
  rw [wordToken?, if_neg (hword rfl), if_neg (hword rfl), if_neg (hword rfl), hread, Option.map_some]

end TripLocale.Json.NumberLiteral
