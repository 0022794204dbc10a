/-
What the two readers of numerals accept. `index?` reads a text as `n` exactly when `n` has at most 64 bits
and the text is the decimal numeral that the printer writes for it; `word16` reads every spelling of a
number of 16 bits, and of a larger number it says that it is too large (`word16_of_spells`).

A digit behind a positive number extends its numeral (`toDigits_append`), so a run of digits that does
not begin with a zero is the numeral of the number it denotes. No digit makes a number smaller
(`le_foldl_digits`), so digits that once exceed 16 bits exceed them to the end.
-/
import TripLocale.Proofs.Outcome
import TripLocale.Text.Numeral

namespace TripLocale.Text

/-! ## Digits -/

theorem ofDigits_toDigits (n : Nat) : ofDigits (Nat.toDigits 10 n) = n :=
  Nat.ofDigitChars_ten_toDigits

/-- Different numbers have different numerals. -/
theorem toString_inj {m n : Nat} (h : toString m = toString n) : m = n := by
  have hd : Nat.toDigits 10 m = Nat.toDigits 10 n := by
    rw [← Nat.toList_repr, ← Nat.toList_repr]
    exact congrArg String.toList h
  rw [← ofDigits_toDigits m, ← ofDigits_toDigits n, hd]

theorem isDigit_of_mem_toDigits {n : Nat} {c : Char} (h : c ∈ Nat.toDigits 10 n) : c.isDigit = true :=
  Nat.isDigit_of_mem_toDigits (by decide) (by decide) h

theorem digitValue_lt {c : Char} (h : c.isDigit = true) : digitValue c < 10 := by
  have h9 : c.toNat ≤ 57 := (Char.isDigit_iff_toNat.1 h).2
  show c.toNat - 48 < 10
  omega

/-- A digit is the one printed for its value. -/
theorem digitChar_digitValue {c : Char} (h : c.isDigit = true) : Nat.digitChar (digitValue c) = c := by
  have h0 : 48 ≤ c.toNat := (Char.isDigit_iff_toNat.1 h).1
  apply Char.toNat_inj.1
  rw [Nat.toNat_digitChar_of_lt_ten (digitValue_lt h)]
  show 48 + (c.toNat - 48) = c.toNat
  omega

/-- Digits behind a positive number extend its numeral. -/
theorem toDigits_append {n : Nat} (hn : 0 < n) {ds : List Char} (h : ∀ c ∈ ds, c.isDigit = true) :
    Nat.toDigits 10 n ++ ds = Nat.toDigits 10 (ds.foldl (fun n d => 10 * n + digitValue d) n) := by
  induction ds generalizing n with
  | nil => simp
  | cons d ds ih =>
    have hd := h d (List.mem_cons_self ..)
    have hstep : Nat.toDigits 10 n ++ [d] = Nat.toDigits 10 (10 * n + digitValue d) := by
      rw [← Nat.toDigits_append_toDigits (by decide) hn (digitValue_lt hd),
        Nat.toDigits_of_lt_base (digitValue_lt hd), digitChar_digitValue hd]
    rw [List.foldl_cons, ← ih (by omega) fun c hc => h c (List.mem_cons_of_mem _ hc), ← hstep]
    simp

/-- No numeral of a positive number begins with a zero. -/
theorem head?_toDigits_ne {n : Nat} (hn : 0 < n) : (Nat.toDigits 10 n).head? ≠ some '0' := by
  induction n using Nat.strongRecOn with
  | ind n ih =>
    by_cases h : n < 10
    · rw [Nat.toDigits_of_lt_base h, List.head?_cons]
      intro e
      have he : (Nat.digitChar n).toNat = 48 := congrArg Char.toNat (Option.some.inj e)
      rw [Nat.toNat_digitChar_of_lt_ten h] at he
      omega
    · rw [Nat.toDigits_of_base_le (by decide) (by omega), List.head?_append]
      have hne : (Nat.toDigits 10 (n / 10)).head? ≠ none := by simp [Nat.toDigits_ne_nil]
      rw [Option.or_of_isSome (Option.isSome_iff_ne_none.2 hne)]
      exact ih (n / 10) (by omega) (by omega)

/-! ## Positions -/

/-- The canonical texts are those that the printer writes. -/
theorem isCanonical_iff {ds : List Char} : isCanonical ds = true ↔ ds = Nat.toDigits 10 (ofDigits ds) := by
  simp only [isCanonical, Bool.and_eq_true, Bool.or_eq_true, beq_iff_eq, bne_iff_ne, ne_eq,
    List.all_eq_true, Bool.not_eq_true', List.isEmpty_eq_false_iff]
  constructor
  · rintro ⟨⟨hne, hd⟩, rfl | hz⟩
    · rfl
    obtain ⟨d, ds, rfl⟩ := List.exists_cons_of_ne_nil hne
    have hdd := hd d (List.mem_cons_self ..)
    have hpos : 0 < digitValue d := by
      have h0 : 48 ≤ d.toNat := (Char.isDigit_iff_toNat.1 hdd).1
      have h1 : d.toNat ≠ 48 := fun e => hz (congrArg some (Char.toNat_inj.1 e))
      show 0 < d.toNat - 48
      omega
    have happ := toDigits_append hpos fun c hc => hd c (List.mem_cons_of_mem _ hc)
    rw [Nat.toDigits_of_lt_base (digitValue_lt hdd), digitChar_digitValue hdd] at happ
    simpa [ofDigits] using happ
  · generalize ofDigits ds = n
    rintro rfl
    refine ⟨⟨Nat.toDigits_ne_nil, fun c => isDigit_of_mem_toDigits⟩, ?_⟩
    rcases Nat.eq_zero_or_pos n with rfl | hn
    · exact .inl rfl
    · exact .inr (head?_toDigits_ne hn)

/-- A text is the position `n` exactly when it is the numeral of `n` and `n` has at most 64 bits. -/
theorem index?_eq_some_iff {ds : List Char} {n : Nat} :
    index? ds = some n ↔ fits 64 n = true ∧ ds = Nat.toDigits 10 n := by
  unfold index?
  constructor
  · intro h
    split at h
    · next hc =>
      rw [Bool.and_eq_true] at hc
      cases h
      exact ⟨hc.2, isCanonical_iff.1 hc.1⟩
    · cases h
  · rintro ⟨hf, rfl⟩
    have hc : isCanonical (Nat.toDigits 10 n) = true := isCanonical_iff.2 (by rw [ofDigits_toDigits])
    rw [hc, ofDigits_toDigits, hf]
    rfl

/-! ## Numbers of 16 bits -/

/-- The text is the number `n` in digits, leading zeros allowed, behind an optional plus sign. -/
def Spells (cs : List Char) (n : Nat) : Prop :=
  ∃ ds, (cs = ds ∨ cs = '+' :: ds) ∧ ds ≠ [] ∧ (∀ d ∈ ds, d.isDigit = true) ∧ ofDigits ds = n

theorem unsigned_plus {ds : List Char} (h : ds ≠ []) : unsigned ('+' :: ds) = ds := by
  obtain ⟨d, ds, rfl⟩ := List.exists_cons_of_ne_nil h
  rfl

theorem unsigned_of_head?_ne {cs : List Char} (h : cs.head? ≠ some '+') : unsigned cs = cs := by
  unfold unsigned
  split
  · exact absurd rfl h
  · rfl

theorem eq_unsigned_or (cs : List Char) : cs = unsigned cs ∨ cs = '+' :: unsigned cs := by
  unfold unsigned
  split
  · exact .inr rfl
  · exact .inl rfl

/-- Only the empty text has nothing to read behind the sign. -/
theorem unsigned_ne_nil {cs : List Char} (h : cs ≠ []) : unsigned cs ≠ [] := by
  unfold unsigned
  split
  · exact List.cons_ne_nil _ _
  · exact h

theorem spells_iff {cs : List Char} {n : Nat} :
    Spells cs n ↔ cs ≠ [] ∧ (∀ d ∈ unsigned cs, d.isDigit = true) ∧ ofDigits (unsigned cs) = n := by
  constructor
  · rintro ⟨ds, hcs | hcs, hne, hd, hn⟩
    · -- a digit is no sign
      have hsign : ds.head? ≠ some '+' := fun h => absurd (hd '+' (List.mem_of_head? h)) (by decide)
      rw [hcs, unsigned_of_head?_ne hsign]
      exact ⟨hne, hd, hn⟩
    · rw [hcs, unsigned_plus hne]
      exact ⟨List.cons_ne_nil _ _, hd, hn⟩
  · rintro ⟨hne, hd, hn⟩
    exact ⟨unsigned cs, eq_unsigned_or cs, unsigned_ne_nil hne, hd, hn⟩

theorem le_foldl_digits (ds : List Char) (n : Nat) : n ≤ ds.foldl (fun n d => 10 * n + digitValue d) n := by
  induction ds generalizing n with
  | nil => exact Nat.le_refl n
  | cons d ds ih =>
    rw [List.foldl_cons]
    have := ih (10 * n + digitValue d)
    omega

theorem addDigit_of_isDigit {d : Char} (hd : d.isDigit = true) (n : Nat) :
    addDigit n d = if fits 16 (10 * n + digitValue d) then .ok (10 * n + digitValue d) else .error .tooLarge := by
  rw [addDigit, hd]
  rfl

theorem isDigit_of_addDigit {d : Char} {n m : Nat} (h : addDigit n d = .ok m) : d.isDigit = true := by
  unfold addDigit at h
  split at h
  · cases h
  · next hd => simpa using hd

/-- Digits behind a number of 16 bits: they are read, unless they make it too large. -/
theorem foldlM_addDigit {ds : List Char} (hd : ∀ d ∈ ds, d.isDigit = true) {n : Nat} (hn : fits 16 n = true) :
    ds.foldlM addDigit n =
      if fits 16 (ds.foldl (fun n d => 10 * n + digitValue d) n) then
        .ok (ds.foldl (fun n d => 10 * n + digitValue d) n)
      else .error .tooLarge := by
  induction ds generalizing n with
  | nil =>
    rw [List.foldl_nil, if_pos hn]
    rfl
  | cons d ds ih =>
    rw [List.foldlM_cons, List.foldl_cons, addDigit_of_isDigit (hd d (List.mem_cons_self ..))]
    by_cases hf : fits 16 (10 * n + digitValue d) = true
    · rw [if_pos hf]
      exact ih (fun d h => hd d (List.mem_cons_of_mem _ h)) hf
    · have hlarge : ¬ fits 16 (ds.foldl (fun n d => 10 * n + digitValue d) (10 * n + digitValue d)) = true := by
        have := le_foldl_digits ds (10 * n + digitValue d)
        simp only [fits, decide_eq_true_eq] at hf ⊢
        omega
      rw [if_neg hf, if_neg hlarge]
      rfl

/-- What is read has digits only. -/
theorem isDigit_of_foldlM_addDigit {ds : List Char} {n m : Nat} (h : ds.foldlM addDigit n = .ok m) :
    ∀ d ∈ ds, d.isDigit = true := by
  induction ds generalizing n with
  | nil => exact fun d hd => absurd hd List.not_mem_nil
  | cons d ds ih =>
    rw [List.foldlM_cons] at h
    obtain ⟨k, hk, h⟩ := bind_eq_ok_iff.1 h
    exact List.forall_mem_cons.2 ⟨isDigit_of_addDigit hk, ih h⟩

/-- A number that is spelled is read, unless it has more than 16 bits. -/
theorem word16_of_spells {cs : List Char} {n : Nat} (h : Spells cs n) :
    word16 cs = if fits 16 n then .ok (UInt16.ofNat n) else .error .tooLarge := by
  obtain ⟨hne, hd, rfl⟩ := spells_iff.1 h
  rw [word16, if_neg (by simpa using hne), foldlM_addDigit hd (by decide), ← ofDigits]
  split <;> rfl

/-- The texts that are read as a number of 16 bits are its spellings. -/
theorem word16_eq_ok_iff {cs : List Char} {w : UInt16} : word16 cs = .ok w ↔ Spells cs w.toNat := by
  constructor
  · intro h
    have hread := h
    unfold word16 at h
    split at h
    · cases h
    · next hne =>
      obtain ⟨n, hn, -⟩ := map_eq_ok_iff.1 h
      have hspells : Spells cs (ofDigits (unsigned cs)) :=
        spells_iff.2 ⟨by simpa using hne, isDigit_of_foldlM_addDigit hn, rfl⟩
      rw [word16_of_spells hspells] at hread
      split at hread
      · next hf =>
        have hlt : ofDigits (unsigned cs) < UInt16.size := of_decide_eq_true hf
        cases hread
        rwa [UInt16.toNat_ofNat_of_lt' hlt]
      · cases hread
  · intro h
    have hf : fits 16 w.toNat = true := decide_eq_true w.toNat_lt
    rw [word16_of_spells h, if_pos hf, UInt16.ofNat_toNat]

/-- The number that the printer writes is spelled so. -/
theorem spells_toString (n : Nat) : Spells (toString n).toList n := by
  have hdigits : (toString n).toList = Nat.toDigits 10 n := Nat.toList_repr
  rw [hdigits]
  exact ⟨_, .inl rfl, Nat.toDigits_ne_nil, fun d => isDigit_of_mem_toDigits, ofDigits_toDigits n⟩

end TripLocale.Text
