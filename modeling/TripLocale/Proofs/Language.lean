/-
Which codes name a language: a code names Polish exactly when, without the blanks around it, it is `p` and `l` in
either case and then ends or goes on with a hyphen or an underscore (`ofCode?_eq_polish_iff`).

Codes are compared in lower case, and some letters from outside ASCII have small letters within it. None of these
is a letter of the code, a hyphen or an underscore, so the primary tag of a code can be read off it character by
character (`tagBehind_eq_cons_iff`), whatever stands around.
-/
import TripLocale.Language
import TripLocale.Proofs.Text.Lowercase
import TripLocale.Proofs.Text.Trim

namespace TripLocale.Language

open Text

/-! ## The primary tag, character by character -/

/-- What the primary tag has of a text behind another one, which is given backwards. -/
def tagBehind (before cs : List Char) : List Char :=
  primaryTag ((lowercaseBehind before cs).map underscored)

variable {before cs tag : List Char} {c x : Char}

theorem tagBehind_hyphen (before cs : List Char) : tagBehind before ('-' :: cs) = [] := by
  rw [tagBehind, lowercaseBehind, lowerBetween_of_ascii before cs (by decide)]
  rfl

theorem tagBehind_underscore (before cs : List Char) : tagBehind before ('_' :: cs) = [] := by
  rw [tagBehind, lowercaseBehind, lowerBetween_of_ascii before cs (by decide)]
  rfl

theorem tagBehind_of_ascii (before cs : List Char) (h : c.toNat < 0x80) (hh : c ≠ '-') (hu : c ≠ '_') :
    tagBehind before (c :: cs) = c.toLower :: tagBehind (c :: before) cs := by
  have hall : ∀ c : Char, c.toNat < 0x80 → c ≠ '-' → c ≠ '_' →
      underscored c.toLower = c.toLower ∧ c.toLower ≠ '_' := forall_ascii (by decide +kernel)
  obtain ⟨hsame, hmark⟩ := hall c h hh hu
  rw [tagBehind, lowercaseBehind, lowerBetween_of_ascii before cs h, List.singleton_append, List.map_cons, hsame,
    primaryTag, List.takeWhile_cons_of_pos (by simpa using hmark)]
  rfl

/-- From outside ASCII come only an `i` and a `k` into the tag. -/
theorem exists_tagBehind_cons (before cs : List Char) (h : 0x80 ≤ c.toNat) : ∃ y ys,
    tagBehind before (c :: cs) = y :: ys ∧ (y.toNat < 0x80 → y = 'i' ∨ y = 'k') := by
  obtain ⟨y, ys, hy⟩ := List.exists_cons_of_ne_nil (lowerBetween_ne_nil before c cs)
  have hascii : y.toNat < 0x80 → y = 'i' ∨ y = 'k' := eq_of_mem_lowerBetween h (by rw [hy]; exact .head _)
  have hne : ∀ m : Char, m.toNat < 0x80 → m ≠ 'i' → m ≠ 'k' → y ≠ m := by
    rintro m hm hi hk rfl
    exact (hascii hm).elim hi hk
  have hsame : underscored y = y := if_neg (hne '-' (by decide) (by decide) (by decide))
  have hmark : y ≠ '_' := hne '_' (by decide) (by decide) (by decide)
  refine ⟨y, primaryTag ((ys ++ lowercaseBehind (c :: before) cs).map underscored), ?_, hascii⟩
  rw [tagBehind, lowercaseBehind, hy, List.cons_append, List.map_cons, hsame, primaryTag,
    List.takeWhile_cons_of_pos (by simpa using hmark)]
  rfl

/-- The tag ends where the code ends or goes on with a hyphen or an underscore. -/
theorem tagBehind_eq_nil_iff : tagBehind before cs = [] ↔ cs = [] ∨ cs.head? = some '-' ∨ cs.head? = some '_' := by
  cases cs with
  | nil => exact ⟨fun _ => .inl rfl, fun _ => rfl⟩
  | cons c cs =>
    rw [List.head?_cons, Option.some.injEq, Option.some.injEq, or_iff_right (List.cons_ne_nil c cs)]
    constructor
    · intro h
      by_contra hmark
      rw [not_or] at hmark
      by_cases hc : c.toNat < 0x80
      · rw [tagBehind_of_ascii before cs hc hmark.1 hmark.2] at h
        cases h
      · obtain ⟨y, ys, hy, -⟩ := exists_tagBehind_cons before cs (Nat.le_of_not_lt hc)
        rw [hy] at h
        cases h
    · rintro (rfl | rfl)
      · exact tagBehind_hyphen before cs
      · exact tagBehind_underscore before cs

/-- A letter in either case belongs to ASCII and is no mark. -/
theorem ascii_of_letter (ha : 'a' ≤ x) (hz : x ≤ 'z') (h : c = x ∨ c = x.toUpper) :
    c.toNat < 0x80 ∧ c ≠ '-' ∧ c ≠ '_' := by
  have hlow : c.toLower = x := (toLower_eq_iff ha hz).2 h
  have hx : x.toNat < 0x80 := Nat.lt_of_le_of_lt hz (by decide)
  have hupper : ∀ x : Char, x.toNat < 0x80 → x.toUpper.toNat < 0x80 := forall_ascii (by decide +kernel)
  refine ⟨?_, ?_, ?_⟩
  · rcases h with rfl | rfl
    · exact hx
    · exact hupper x hx
  · rintro rfl
    exact absurd (hlow ▸ ha) (by decide)
  · rintro rfl
    exact absurd (hlow ▸ ha) (by decide)

/-- A small letter stands in the tag where the code has this letter in either case, unless it is one of the two
that characters from outside ASCII can become. -/
theorem tagBehind_eq_cons_iff (ha : 'a' ≤ x) (hz : x ≤ 'z') (hi : x ≠ 'i') (hk : x ≠ 'k') :
    tagBehind before cs = x :: tag ↔
      ∃ c rest, cs = c :: rest ∧ (c = x ∨ c = x.toUpper) ∧ tagBehind (c :: before) rest = tag := by
  constructor
  · intro h
    cases cs with
    | nil => cases h
    | cons c cs =>
      have hmark : ¬ (c = '-' ∨ c = '_') := by
        rintro (rfl | rfl)
        · rw [tagBehind_hyphen] at h
          cases h
        · rw [tagBehind_underscore] at h
          cases h
      rw [not_or] at hmark
      by_cases hc : c.toNat < 0x80
      · rw [tagBehind_of_ascii before cs hc hmark.1 hmark.2] at h
        obtain ⟨hlow, htag⟩ := List.cons.inj h
        exact ⟨c, cs, rfl, (toLower_eq_iff ha hz).1 hlow, htag⟩
      · obtain ⟨y, ys, hy, hascii⟩ := exists_tagBehind_cons before cs (Nat.le_of_not_lt hc)
        rw [hy] at h
        obtain ⟨rfl, -⟩ := List.cons.inj h
        exact absurd (hascii (Nat.lt_of_le_of_lt hz (by decide))) (not_or.2 ⟨hi, hk⟩)
  · rintro ⟨c, rest, rfl, hc, rfl⟩
    obtain ⟨hascii, hh, hu⟩ := ascii_of_letter ha hz hc
    rw [tagBehind_of_ascii before rest hascii hh hu, (toLower_eq_iff ha hz).2 hc]

/-! ## Codes -/

/-- A code names a language exactly when its primary tag is the language's code. -/
theorem ofCode?_eq_some_iff {code : String} {l : Language} :
    ofCode? code = some l ↔ tagBehind [] (trimBlanks code.toList) = l.code.toList := by
  cases l
  show all.find? (fun l => l.code.toList == tagBehind [] (trimBlanks code.toList)) = some polish ↔ _
  rw [all, List.find?_singleton, Option.ite_none_right_eq_some, and_iff_left rfl, beq_iff_eq, eq_comm]

/-- The primary tag `pl`: the two letters in either case, and behind them the end or a mark. -/
theorem tagBehind_eq_pl_iff : tagBehind before cs = ['p', 'l'] ↔ ∃ p l rest, cs = p :: l :: rest ∧
    (p = 'p' ∨ p = 'P') ∧ (l = 'l' ∨ l = 'L') ∧ (rest = [] ∨ rest.head? = some '-' ∨ rest.head? = some '_') := by
  have hp : ∀ {before cs tag}, tagBehind before cs = 'p' :: tag ↔ ∃ c rest, cs = c :: rest ∧ (c = 'p' ∨ c = 'P') ∧
      tagBehind (c :: before) rest = tag := tagBehind_eq_cons_iff (by decide) (by decide) (by decide) (by decide)
  have hl : ∀ {before cs tag}, tagBehind before cs = 'l' :: tag ↔ ∃ c rest, cs = c :: rest ∧ (c = 'l' ∨ c = 'L') ∧
      tagBehind (c :: before) rest = tag := tagBehind_eq_cons_iff (by decide) (by decide) (by decide) (by decide)
  rw [hp]
  constructor
  · rintro ⟨p, cs, rfl, hp, htag⟩
    obtain ⟨l, rest, rfl, hl, htag⟩ := hl.1 htag
    exact ⟨p, l, rest, rfl, hp, hl, tagBehind_eq_nil_iff.1 htag⟩
  · rintro ⟨p, l, rest, rfl, hp, hl', hrest⟩
    exact ⟨p, _, rfl, hp, hl.2 ⟨l, rest, rfl, hl', tagBehind_eq_nil_iff.2 hrest⟩⟩

/-- A code names Polish exactly when, between blanks, it is `p` and `l` in either case, and then ends or goes on
with a hyphen or an underscore and any text. -/
theorem ofCode?_eq_polish_iff (code : String) :
    ofCode? code = some polish ↔ ∃ front p l rest back, code.toList = front ++ p :: l :: rest ++ back ∧
      (∀ c ∈ front, isBlank c = true) ∧ (∀ c ∈ back, isBlank c = true) ∧ Unpadded (p :: l :: rest) ∧
        (p = 'p' ∨ p = 'P') ∧ (l = 'l' ∨ l = 'L') ∧
          (rest = [] ∨ rest.head? = some '-' ∨ rest.head? = some '_') := by
  rw [ofCode?_eq_some_iff]
  show tagBehind [] _ = ['p', 'l'] ↔ _
  rw [tagBehind_eq_pl_iff]
  constructor
  · rintro ⟨p, l, rest, htrim, hp, hl, hrest⟩
    obtain ⟨hends, front, back, he, hf, hb⟩ := trimBlanks_eq_iff.1 htrim
    exact ⟨front, p, l, rest, back, he, hf, hb, hends, hp, hl, hrest⟩
  · rintro ⟨front, p, l, rest, back, he, hf, hb, hends, hp, hl, hrest⟩
    exact ⟨p, l, rest, trimBlanks_eq_iff.2 ⟨hends, front, back, he, hf, hb⟩, hp, hl, hrest⟩

example : ofCode? "\u3000PL_pl\n" = some polish ∧ ofCode? "pl -PL" = none := by decide +kernel

end TripLocale.Language
