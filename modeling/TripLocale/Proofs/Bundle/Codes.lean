/-
The codes that a choice stands for: its value is a list with commas, and reading it normalises it
(`codes_normalized`).

A comma cuts a value wherever it stands, so the codes of two values joined by one are those of the first and
those of the second (`codesOf_append`); and a text that is a code already is left as it is.
-/
import Mathlib.Data.List.Infix
import TripLocale.Bundle.Basic
import TripLocale.Proofs.Text.Split
import TripLocale.Proofs.Text.Trim

namespace TripLocale

open Text

namespace Choice

/-- A text that can stand in a list with commas and be read back: it is not empty, and it has no comma and no
blank at its ends. -/
structure IsCode (code : String) : Prop where
  ne_empty : code ≠ ""
  no_comma : ',' ∉ code.toList
  unpadded : Unpadded code.toList

/-! ## Reading a value -/

/-- The codes on both sides of a comma are read apart. -/
theorem codesOf_append (v w : List Char) : codesOf (v ++ [','] ++ w) = codesOf v ++ codesOf w := by
  rw [codesOf, (borderless_singleton ',').splitOn_append (List.cons_ne_nil _ _), List.map_append, List.filter_append]
  rfl

/-- What is read has no comma, no blank at its ends, and something between them. -/
theorem of_mem_codesOf {v code : List Char} (h : code ∈ codesOf v) :
    code ≠ [] ∧ ',' ∉ code ∧ Unpadded code := by
  obtain ⟨hmem, hne⟩ := List.mem_filter.1 h
  obtain ⟨piece, hpiece, rfl⟩ := List.mem_map.1 hmem
  have hcomma : ',' ∉ piece := by
    rw [← List.singleton_infix_iff]
    exact not_occurs_of_mem_splitOn (List.cons_ne_nil _ _) hpiece
  refine ⟨by simpa using hne, fun hc => hcomma ?_, unpadded_trimBlanks piece⟩
  obtain ⟨front, back, he, -⟩ := exists_blanks piece
  rw [he]
  simp [hc]

/-- A text that is a code is read as itself. -/
theorem codesOf_code {code : List Char} (hne : code ≠ []) (hc : ',' ∉ code) (hu : Unpadded code) :
    codesOf code = [code] := by
  have hsplit : splitOn [','] code = [code] := by
    rw [splitOn_eq_pieces (List.cons_ne_nil _ _), pieces_of_not_occurs]
    rwa [List.singleton_infix_iff]
  have htrim : trimBlanks code = code := trimBlanks_eq_iff.2 ⟨hu, [], [], by simp, nofun, nofun⟩
  rw [codesOf, hsplit, List.map_singleton, htrim]
  exact List.filter_eq_self.2 (by simpa using hne)

theorem codesOf_intercalate {codes : List (List Char)} (h : ∀ code ∈ codes, code ≠ [] ∧ ',' ∉ code ∧ Unpadded code) :
    codesOf ([','].intercalate codes) = codes := by
  induction codes with
  | nil => rfl
  | cons code codes ih =>
    obtain ⟨⟨hne, hc, hu⟩, hcodes⟩ := List.forall_mem_cons.1 h
    cases codes with
    | nil => simpa [List.intercalate] using codesOf_code hne hc hu
    | cons next codes =>
      rw [intercalate_cons_cons, codesOf_append, codesOf_code hne hc hu, ih hcodes]
      rfl

/-! ## Codes of a choice -/

theorem IsCode.of_mem {c : Choice} {code : String} (h : code ∈ c.codes) : IsCode code := by
  obtain ⟨cs, hcs, rfl⟩ := List.mem_map.1 h
  obtain ⟨hne, hc, hu⟩ := of_mem_codesOf hcs
  rw [← String.toList_ofList (l := cs)] at hc hu
  exact ⟨by simpa using hne, hc, hu⟩

/-- A list of codes joined by commas is read as this list. -/
theorem codes_joined {codes : List String} (h : ∀ code ∈ codes, IsCode code) (label : String) :
    Choice.codes ⟨",".intercalate codes, label⟩ = codes := by
  have hread : codesOf ([','].intercalate (codes.map String.toList)) = codes.map String.toList :=
    codesOf_intercalate (List.forall_mem_map.2 fun code hc =>
      ⟨by simpa using (h code hc).ne_empty, (h code hc).no_comma, (h code hc).unpadded⟩)
  show (codesOf (",".intercalate codes).toList).map String.ofList = codes
  rw [String.toList_intercalate]
  show (codesOf ([','].intercalate (codes.map String.toList))).map String.ofList = codes
  rw [hread, List.map_map]
  simp [Function.comp_def]

/-- Reading a value as a list of codes normalises it: it yields codes only, all codes of a list that was joined
by commas, and for two values joined by a comma the codes of both, so that the codes of any value survive being
joined and read once more. -/
theorem codes_normalized :
    (∀ (c : Choice), ∀ code ∈ c.codes, IsCode code) ∧
    (∀ (codes : List String) (label : String), (∀ code ∈ codes, IsCode code) →
      Choice.codes ⟨",".intercalate codes, label⟩ = codes) ∧
    (∀ v w label label' label'' : String,
      Choice.codes ⟨v ++ "," ++ w, label⟩ = Choice.codes ⟨v, label'⟩ ++ Choice.codes ⟨w, label''⟩) ∧
    ∀ (c : Choice) (label : String), Choice.codes ⟨",".intercalate c.codes, label⟩ = c.codes := by
  refine ⟨fun c code => IsCode.of_mem, fun codes label h => codes_joined h label,
    fun v w label label' label'' => ?_, fun c label => codes_joined (fun code => IsCode.of_mem) label⟩
  show (codesOf (v ++ "," ++ w).toList).map String.ofList = _
  rw [String.toList_append, String.toList_append]
  exact (congrArg _ (codesOf_append _ _)).trans List.map_append

/-- Three modes joined by commas, and a value with empty pieces and blanks that yields the same three. -/
theorem codes_normalized_modes :
    (∀ code ∈ ["BUSISH", "TRAINISH", "WALK"], IsCode code) ∧
      Choice.codes ⟨"BUSISH,TRAINISH,WALK", "Transit"⟩ = ["BUSISH", "TRAINISH", "WALK"] ∧
      Choice.codes ⟨" BUSISH,\t, TRAINISH\u3000,WALK,", ""⟩ = ["BUSISH", "TRAINISH", "WALK"] := by
  have hmessy : Choice.codes ⟨" BUSISH,\t, TRAINISH\u3000,WALK,", ""⟩ = ["BUSISH", "TRAINISH", "WALK"] := by
    decide +kernel
  obtain ⟨hcode, hjoined, -, -⟩ := codes_normalized
  have hcodes : ∀ code ∈ ["BUSISH", "TRAINISH", "WALK"], IsCode code := hmessy ▸ hcode _
  exact ⟨hcodes, hjoined _ "Transit" hcodes, hmessy⟩

end Choice

end TripLocale
