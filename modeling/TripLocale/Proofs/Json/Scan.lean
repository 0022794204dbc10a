/-
Scanning: however tokens are written, their text is scanned into these tokens (`scan?_spelling`), if no two
literals or numbers stand side by side. What the printer writes is one case of it (`scan?_chars`).

A piece of a string is scanned the same whatever stands before it, so a string ends at its own closing quote.
A literal or a number ends only where something else begins. Until then it is still open, and `Scan.Reads`
counts it with the tokens read.
-/
import Mathlib.Data.List.Chain
import TripLocale.Proofs.Json.Number

namespace TripLocale.Json

/-! ## Tokens as read -/

namespace Token

theorem settled?_raw (t : Token String Number) : settled? t.raw = some t := by
  cases t <;> rfl

theorem mapM_settled?_raw (ts : List (Token String Number)) : (ts.map raw).mapM settled? = some ts := by
  induction ts with
  | nil => rfl
  | cons t ts ih =>
    rw [List.map_cons, List.mapM_cons, settled?_raw, ih]
    rfl

/-- One of two neighbours ends by itself, so that they are read as two tokens. -/
def Apart {σ ν : Type} (t u : Token σ ν) : Prop := t.selfEnding = true ∨ u.selfEnding = true

end Token

/-! ## What the pieces of a string say -/

namespace Piece

variable {n m : Nat} {c : Char} {ps : List Piece} {cs : List Char}

theorem isHigh_iff : isHigh n = true ↔ 0xD800 ≤ n ∧ n < 0xDC00 := by simp [isHigh]

theorem isLow_iff : isLow n = true ↔ 0xDC00 ≤ n ∧ n < 0xE000 := by simp [isLow]

theorem text?_pair (hn : isHigh n = true) (hm : isLow m = true) (ps : List Piece) :
    text? (.unit n :: .unit m :: ps) = (text? ps).map (pair n m :: ·) := by
  rw [text?.eq_def]
  simp only [if_pos hn, if_pos hm]

theorem text?_unit (hh : ¬ isHigh n = true) (hl : ¬ isLow n = true) (ps : List Piece) :
    text? (.unit n :: ps) = (text? ps).map (Char.ofNat n :: ·) := by
  rw [text?.eq_def]
  simp only [if_neg hh, if_neg hl]

theorem toNat_ofNat_of_isValidChar (h : n.isValidChar) : (Char.ofNat n).toNat = n := by
  rw [Char.ofNat, dif_pos h]
  rfl

theorem toNat_pair (hn : isHigh n = true) (hm : isLow m = true) :
    (pair n m).toNat = 0x10000 + (n - 0xD800) * 0x400 + (m - 0xDC00) := by
  rw [isHigh_iff] at hn
  rw [isLow_iff] at hm
  exact toNat_ofNat_of_isValidChar (.inr (by omega))

theorem text?_of_says (h : Says ps cs) : text? ps = some cs := by
  have hvalid : ∀ c : Char, c.toNat < 0xD800 ∨ 0xDFFF < c.toNat ∧ c.toNat < 0x110000 := fun c => c.valid
  induction h with
  | nil => rfl
  | char _ ih => rw [text?, ih]; rfl
  | @unit c ps cs _ _ ih =>
    have := hvalid c
    rw [text?_unit (by rw [isHigh_iff]; omega) (by rw [isLow_iff]; omega), ih, Char.ofNat_toNat]
    rfl
  | @pair c ps cs hc _ ih =>
    have := hvalid c
    have hhigh : isHigh (0xD800 + (c.toNat - 0x10000) / 0x400) = true := isHigh_iff.2 (by omega)
    have hlow : isLow (0xDC00 + (c.toNat - 0x10000) % 0x400) = true := isLow_iff.2 (by omega)
    have hpair : pair (0xD800 + (c.toNat - 0x10000) / 0x400) (0xDC00 + (c.toNat - 0x10000) % 0x400) = c := by
      refine Char.toNat_inj.1 ?_
      rw [toNat_pair hhigh hlow]
      omega
    rw [text?_pair hhigh hlow, hpair, ih]
    rfl

theorem says_of_text? (hn : ∀ n, .unit n ∈ ps → n < 0x10000) (h : text? ps = some cs) : Says ps cs := by
  induction ps using text?.induct generalizing cs with
  | case1 => cases h; exact .nil
  | case2 c ps ih =>
    obtain ⟨ds, hds, rfl⟩ := Option.map_eq_some_iff.1 h
    exact .char (ih (fun n hm => hn n (.tail _ hm)) hds)
  -- a surrogate pair
  | case3 n hhigh m ps hlow ih =>
    rw [text?_pair hhigh hlow] at h
    obtain ⟨ds, hds, rfl⟩ := Option.map_eq_some_iff.1 h
    have hpair := toNat_pair hhigh hlow
    rw [isHigh_iff] at hhigh
    rw [isLow_iff] at hlow
    have hfirst : 0xD800 + ((pair n m).toNat - 0x10000) / 0x400 = n := by omega
    have hsecond : 0xDC00 + ((pair n m).toNat - 0x10000) % 0x400 = m := by omega
    have hsays := Says.pair (c := pair n m) (by omega) (ih (fun n hm => hn n (.tail _ (.tail _ hm))) hds)
    rwa [hfirst, hsecond] at hsays
  -- half of a pair without the other half
  | case4 n hhigh m ps hlow =>
    rw [text?.eq_def] at h
    simp only [if_pos hhigh, if_neg hlow] at h
    cases h
  | case5 n ps hhigh hps =>
    rw [text?.eq_def] at h
    simp only [if_pos hhigh] at h
    match ps, hps with
    | [], _ => cases h
    | .char c :: ps, _ => cases h
    | .unit m :: ps, hps => exact (hps m ps rfl).elim
  | case6 n ps hhigh hlow =>
    rw [text?.eq_def] at h
    simp only [if_neg hhigh, if_pos hlow] at h
    cases h
  | case7 n ps hhigh hlow ih =>
    rw [text?_unit hhigh hlow] at h
    obtain ⟨ds, hds, rfl⟩ := Option.map_eq_some_iff.1 h
    have hlt := hn n (.head _)
    rw [isHigh_iff] at hhigh
    rw [isLow_iff] at hlow
    have hvalid : n < 0xD800 ∨ 0xDFFF < n ∧ n < 0x110000 := by omega
    have hsays := Says.unit (c := Char.ofNat n) ((toNat_ofNat_of_isValidChar hvalid).symm ▸ hlt)
      (ih (fun n hm => hn n (.tail _ hm)) hds)
    rwa [toNat_ofNat_of_isValidChar hvalid] at hsays

theorem hexValue?_lt {d : Nat} (h : hexValue? c = some d) : d < 16 := by
  have hle : ∀ {a b : Char}, a ≤ b → a.toNat ≤ b.toNat := UInt32.le_iff_toNat_le.1
  unfold hexValue? at h
  split_ifs at h with hd ha hA
  · have : c.toNat ≤ 57 := (Char.isDigit_iff_toNat.1 hd).2
    cases h
    omega
  · rw [Bool.and_eq_true, decide_eq_true_eq, decide_eq_true_eq] at ha
    have : c.toNat ≤ 102 := hle ha.2
    cases h
    omega
  · rw [Bool.and_eq_true, decide_eq_true_eq, decide_eq_true_eq] at hA
    have : c.toNat ≤ 70 := hle hA.2
    cases h
    omega

/-- A code unit has 16 bits. -/
theorem SpellsAll.unit_lt (h : SpellsAll cs ps) : ∀ n, .unit n ∈ ps → n < 0x10000 := by
  induction h with
  | nil => nofun
  | cons hp _ ih =>
    intro n hn
    rcases List.mem_cons.1 hn with rfl | hn
    · cases hp with
      | unit h₃ h₂ h₁ h₀ =>
        have := hexValue?_lt h₃
        have := hexValue?_lt h₂
        have := hexValue?_lt h₁
        have := hexValue?_lt h₀
        omega
    · exact ih n hn

end Piece

namespace Scan

variable {ts : List RawToken}

/-! ## Strings -/

/-- A piece is scanned as that piece, whatever stands before it. -/
theorem foldlM_piece {cs : List Char} {p : Piece} (h : Piece.Spells cs p) (ps : List Piece) :
    cs.foldlM step? ⟨ts, .string ps⟩ = some ⟨ts, .string (p :: ps)⟩ := by
  cases h with
  | plain hq hb hc => simp [step?, hq, hb, Nat.not_lt.2 hc]
  | @escaped e c he =>
    have hu : e ≠ 'u' := by
      rintro rfl
      cases he
    simp [step?, hu, he]
  | @unit _ _ _ _ d₃ d₂ d₁ d₀ h₃ h₂ h₁ h₀ =>
    have hn : 16 * (16 * (16 * d₃ + d₂) + d₁) + d₀ = 0x1000 * d₃ + 0x100 * d₂ + 0x10 * d₁ + d₀ := by omega
    simp [step?, h₃, h₂, h₁, h₀, hn]

theorem foldlM_pieces {cs : List Char} {qs : List Piece} (h : Piece.SpellsAll cs qs) (ps : List Piece) :
    cs.foldlM step? ⟨ts, .string ps⟩ = some ⟨ts, .string (qs.reverse ++ ps)⟩ := by
  induction h generalizing ps with
  | nil => rfl
  | @cons cs ds p qs hp _ ih =>
    rw [List.foldlM_append, foldlM_piece hp]
    show ds.foldlM step? ⟨ts, .string (p :: ps)⟩ = _
    rw [ih, List.reverse_cons, List.append_assoc]
    rfl

theorem foldlM_string {cs : List Char} {ps : List Piece} (h : Piece.SpellsAll cs ps) :
    ('"' :: cs ++ ['"']).foldlM step? ⟨ts, .gap⟩ =
      some ⟨.string ((Piece.text? ps).map String.ofList) :: ts, .gap⟩ := by
  have hopen : step? ⟨ts, .gap⟩ '"' = some ⟨ts, .string []⟩ := rfl
  have hclose : step? ⟨ts, .string ps.reverse⟩ '"' =
      some ⟨.string ((Piece.text? ps).map String.ofList) :: ts, .gap⟩ := by
    simp [step?]
  rw [List.cons_append, List.foldlM_cons, hopen]
  show (cs ++ ['"']).foldlM step? ⟨ts, .string []⟩ = _
  rw [List.foldlM_append, foldlM_pieces h, List.append_nil]
  show (['"'] : List Char).foldlM step? ⟨ts, .string ps.reverse⟩ = _
  rw [List.foldlM_cons, hclose]
  rfl

/-! ## Words -/

theorem not_isSpace_of_isWordChar {c : Char} (h : isWordChar c = true) : isSpace c = false := by
  rw [Bool.eq_false_iff]
  intro hs
  simp only [isSpace, Bool.or_eq_true, decide_eq_true_eq] at hs
  rcases hs with ((rfl | rfl) | rfl) | rfl <;> exact absurd h (by decide)

theorem foldlM_run {cs : List Char} (h : ∀ c ∈ cs, isWordChar c = true) (run : List Char) :
    cs.foldlM step? ⟨ts, .word run⟩ = some ⟨ts, .word (cs.reverse ++ run)⟩ := by
  induction cs generalizing run with
  | nil => rfl
  | cons c cs ih =>
    obtain ⟨hc, hcs⟩ := List.forall_mem_cons.1 h
    have hstep : step? ⟨ts, .word run⟩ c = some ⟨ts, .word (c :: run)⟩ := if_pos hc
    rw [List.foldlM_cons, hstep]
    show cs.foldlM step? ⟨ts, .word (c :: run)⟩ = _
    rw [ih hcs, List.reverse_cons, List.append_assoc]
    rfl

theorem foldlM_word {cs : List Char} (hne : cs ≠ []) (h : ∀ c ∈ cs, isWordChar c = true) :
    cs.foldlM step? ⟨ts, .gap⟩ = some ⟨ts, .word cs.reverse⟩ := by
  cases cs with
  | nil => exact absurd rfl hne
  | cons c cs =>
    obtain ⟨hc, hcs⟩ := List.forall_mem_cons.1 h
    have hquote : c ≠ '"' := by
      rintro rfl
      exact absurd hc (by decide)
    have hstep : step? ⟨ts, .gap⟩ c = some ⟨ts, .word [c]⟩ := by
      simp [step?, fromGap?, not_isSpace_of_isWordChar hc, hquote, hc]
    rw [List.foldlM_cons, hstep]
    show cs.foldlM step? ⟨ts, .word [c]⟩ = _
    rw [foldlM_run hcs, List.reverse_cons]

/-! ## Tokens -/

/-- The scan has read the tokens, the latest first. The latest may be a literal or number that has not ended. -/
inductive Reads : Scan → List RawToken → Prop where
  | gap {ts : List RawToken} : Reads ⟨ts, .gap⟩ ts
  | word {ts : List RawToken} {t : RawToken} {run : List Char} :
      wordToken? run.reverse = some t → Reads ⟨ts, .word run⟩ (t :: ts)

variable {s : Scan} {cs : List Char} {t : RawToken} {us : List RawToken}

/-- What cannot go on with a literal or number ends it. -/
theorem Reads.foldlM_cons (h : Reads s ts) {c : Char} (hc : isWordChar c = false) (cs : List Char) :
    (c :: cs).foldlM step? s = (c :: cs).foldlM step? ⟨ts, .gap⟩ := by
  cases h with
  | gap => rfl
  | @word ts t run hrun =>
    have hstep : step? ⟨ts, .word run⟩ c = fromGap? (t :: ts) c := by
      simp [step?, hc, hrun]
    rw [List.foldlM_cons, List.foldlM_cons, hstep]
    rfl

theorem Reads.finish?_eq (h : Reads s ts) : finish? s = some ts.reverse := by
  cases h with
  | gap => rfl
  | @word ts t run hrun =>
    show (wordToken? run.reverse).map (fun t => (t :: ts).reverse) = _
    rw [hrun]
    rfl

theorem isWordChar_of_punctuation? {c : Char} (h : punctuation? c = some t) : isWordChar c = false := by
  unfold punctuation? at h
  split at h <;> first | rfl | cases h

theorem fromGap?_of_punctuation? {c : Char} (h : punctuation? c = some t) :
    fromGap? ts c = some ⟨t :: ts, .gap⟩ := by
  unfold punctuation? at h
  split at h <;> first | (cases h; rfl) | cases h

/-- A token that ends by itself is scanned as that token, also behind an open literal or number. -/
theorem foldlM_selfEnding (ht : Token.Spells cs t) (he : t.selfEnding = true) (hs : Reads s ts) :
    cs.foldlM step? s = some ⟨t :: ts, .gap⟩ := by
  cases ht with
  | @mark c t hc =>
    have hstep : step? ⟨ts, .gap⟩ c = some ⟨t :: ts, .gap⟩ := fromGap?_of_punctuation? hc
    rw [hs.foldlM_cons (isWordChar_of_punctuation? hc), List.foldlM_cons, hstep]
    rfl
  | null => cases he
  | true => cases he
  | false => cases he
  | number => cases he
  | string hps hsays =>
    rw [List.cons_append, hs.foldlM_cons rfl, ← List.cons_append, foldlM_string hps, Piece.text?_of_says hsays,
      Option.map_some, String.ofList_toList]
  | broken hps hsays =>
    have hnone : Piece.text? _ = none := Option.eq_none_iff_forall_ne_some.2 fun cs hcs =>
      hsays cs (Piece.says_of_text? hps.unit_lt hcs)
    rw [List.cons_append, hs.foldlM_cons rfl, ← List.cons_append, foldlM_string hps, hnone, Option.map_none]

/-- A literal or number is one run of characters that stands for it. -/
theorem wordToken?_of_spells (ht : Token.Spells cs t) (he : t.selfEnding = false) :
    wordToken? cs = some t ∧ ∀ c ∈ cs, isWordChar c = true := by
  cases ht with
  | mark hc =>
    unfold punctuation? at hc
    split at hc <;> cases hc <;> cases he
  | null => exact ⟨rfl, List.all_eq_true.1 rfl⟩
  | true => exact ⟨rfl, List.all_eq_true.1 rfl⟩
  | false => exact ⟨rfl, List.all_eq_true.1 rfl⟩
  | number hl => exact ⟨NumberLiteral.wordToken?_of_spells hl, NumberLiteral.isWordChar_of_spells hl⟩
  | string => cases he
  | broken => cases he

theorem foldlM_open (ts : List RawToken) (ht : Token.Spells cs t) (he : t.selfEnding = false) :
    ∃ s, cs.foldlM step? ⟨ts, .gap⟩ = some s ∧ Reads s (t :: ts) := by
  obtain ⟨hword, hchars⟩ := wordToken?_of_spells ht he
  have hne : cs ≠ [] := by
    rintro rfl
    cases hword
  exact ⟨_, foldlM_word hne hchars, .word (by rwa [List.reverse_reverse])⟩

/-- Tokens are scanned one after the other. The first of them must not run into an open literal or number. -/
theorem foldlM_spelling (h : Spelling cs us) (hs : Reads s ts) (hu : us.IsChain Token.Apart)
    (hfirst : ∀ u ∈ us.head?, s.mode = .gap ∨ u.selfEnding = true) :
    ∃ s', cs.foldlM step? s = some s' ∧ Reads s' (us.reverse ++ ts) := by
  induction h generalizing s ts with
  | nil => exact ⟨s, rfl, hs⟩
  | @space c cs us hc _ ih =>
    have hword : isWordChar c = false := by
      rw [Bool.eq_false_iff]
      intro hw
      rw [not_isSpace_of_isWordChar hw] at hc
      cases hc
    have hstep : step? ⟨ts, .gap⟩ c = some ⟨ts, .gap⟩ := if_pos hc
    rw [hs.foldlM_cons hword, List.foldlM_cons, hstep]
    exact ih .gap hu fun _ _ => .inl rfl
  | @token cs ds t us ht _ ih =>
    have hnext : ∀ u ∈ us.head?, t.Apart u := fun _ hm => hu.rel_head? hm
    have hread : ∃ s', cs.foldlM step? s = some s' ∧ Reads s' (t :: ts) ∧
        ∀ u ∈ us.head?, s'.mode = .gap ∨ u.selfEnding = true := by
      cases he : t.selfEnding with
      | true => exact ⟨_, foldlM_selfEnding ht he hs, .gap, fun _ _ => .inl rfl⟩
      | false =>
        have hgap : s = ⟨ts, .gap⟩ := by
          have hmode := (hfirst t rfl).resolve_right (by rw [he]; decide)
          cases hs with
          | gap => rfl
          | word => cases hmode
        obtain ⟨s', hs', hreads⟩ := foldlM_open ts ht he
        exact ⟨s', hgap ▸ hs', hreads, fun u hu => .inr ((hnext u hu).resolve_left (by rw [he]; decide))⟩
    obtain ⟨s', hs', hreads, hfirst'⟩ := hread
    obtain ⟨s'', hs'', hall⟩ := ih hreads hu.tail hfirst'
    refine ⟨s'', ?_, ?_⟩
    · rw [List.foldlM_append, hs']
      exact hs''
    · rwa [List.reverse_cons, List.append_assoc]

end Scan

/-- However tokens are written, their text is scanned into these tokens. -/
theorem scan?_spelling {cs : List Char} {us : List RawToken} (h : Spelling cs us) (hu : us.IsChain Token.Apart) :
    scan? cs = some us := by
  obtain ⟨s, hs, hreads⟩ := Scan.foldlM_spelling h .gap hu fun _ _ => .inl rfl
  rw [scan?, Scan.start, hs, Option.bind_some, hreads.finish?_eq]
  simp

/-- The text of tokens is scanned into these tokens. -/
theorem scan?_chars {us : List (Token String Number)} (h : ∀ t ∈ us, t.selfEnding = true) :
    scan? (us.flatMap Token.chars) = some (us.map Token.raw) := by
  have hraw : ∀ t ∈ us.map Token.raw, t.selfEnding = true :=
    List.forall_mem_map.2 fun t ht => (Token.selfEnding_raw t).trans (h t ht)
  have hapart : (us.map Token.raw).Pairwise Token.Apart :=
    List.pairwise_of_forall_mem_list fun t ht _ _ => .inl (hraw t ht)
  exact scan?_spelling (spelling_chars h) hapart.isChain

end TripLocale.Json
