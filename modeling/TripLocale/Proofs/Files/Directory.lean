/-
Paths and the directories that they name in a tree.

The paths above a path are its text with steps dropped from the end, and the directories above a directory are
those around it. The two go up together as long as no piece of the path is two dots: then the paths above it
name the directories around its own, up to the directory that the path starts from (`findSome?_ancestors`). A
path with two dots has above it a directory that it only passes through.
-/
import Mathlib.Data.List.Infix
import TripLocale.Files.Tree

namespace TripLocale

open TripLocale.Text (Bytes)

/-- The directory that a path starts from: the root, or the working directory. -/
def Path.base (p : Path) (here : Location) : Location := if p.absolute then [] else here

/-- A directory and the directories around it, the nearest first. -/
def Location.around (l : Location) : List Location := l.inits.reverse

namespace Location

theorem around_nil : around [] = [[]] := rfl

theorem around_concat (l : Location) (name : String) : around (l ++ [name]) = (l ++ [name]) :: around l := by
  rw [around, List.inits_append, List.reverse_append]
  rfl

theorem mem_around {l d : Location} : l ∈ around d ↔ l <+: d := by
  rw [around, List.mem_reverse, List.mem_inits]

/-- The directories around one below `top`, up to `top`. -/
theorem filter_around (top names : Location) :
    (around (top ++ names)).filter top.isPrefixOf = (around names).map (top ++ ·) := by
  induction names using List.reverseRecOn with
  | nil =>
    rw [List.append_nil, around_nil, List.map_singleton, List.append_nil]
    induction top using List.reverseRecOn with
    | nil => rfl
    | append_singleton top name _ =>
      rw [around_concat, List.filter_cons_of_pos (by simp), List.filter_eq_nil_iff.2]
      -- what lies around `top` is too short to begin with `top ++ [name]`
      intro l hl hp
      have hlen := (mem_around.1 hl).length_le
      have hlen' := (List.isPrefixOf_iff_prefix.1 hp).length_le
      rw [List.length_append, List.length_singleton] at hlen'
      omega
  | append_singleton names name ih =>
    rw [← List.append_assoc, around_concat, around_concat, List.map_cons, ← ih,
      List.filter_cons_of_pos (by simp [List.isPrefixOf_iff_prefix]), List.append_assoc]

end Location

namespace FileTree

variable (t : FileTree) (here : Location)

/-- The directory that a path names. -/
def directory? (p : Path) : Option Location := p.pieces.foldlM t.enter? (p.base here)

/-- The place that a path leads to, if its last piece is a name. -/
def locate? (p : Path) : Option Location :=
  match p.pieces.getLast? with
  | none => none
  | some name => (p.pieces.dropLast.foldlM t.enter? (p.base here)).map (· ++ [name])

variable {t here}

/-! ## Files -/

theorem content?_eq (p : Path) : t.content? here p = (t.locate? here p).bind t.file? := by
  rw [content?, locate?]
  cases p.pieces.getLast? with
  | none => rfl
  | some name =>
    show (p.pieces.dropLast.foldlM t.enter? (p.base here)).bind _ = _
    rw [Option.bind_map]
    rfl

theorem enter?_of_isIdle {piece : String} (h : Path.isIdle piece = true) (l : Location) :
    t.enter? l piece = some l := if_pos h

/-- A file in the directory that a path names. -/
theorem locate?_join (p : Path) (name : String) :
    t.locate? here (p.join ⟨false, [name]⟩) = (t.directory? here p).map (· ++ [name]) := by
  have hfold : (if p.pieces.getLast? = some "" then p.pieces.dropLast else p.pieces).foldlM t.enter?
      (p.base here) = t.directory? here p := by
    rw [directory?]
    split
    · next h =>
      obtain ⟨front, hf⟩ := List.getLast?_eq_some_iff.1 h
      rw [hf, List.dropLast_concat, List.foldlM_append]
      cases front.foldlM t.enter? (p.base here) <;> rfl
    · rfl
  rw [← hfold]
  simp [locate?, Path.join, Path.base]

/-! ## Searches -/

theorem findSome?_cons_congr {α β γ : Type} {f : α → Option γ} {g : β → Option γ} {a : α} {b : β}
    {as : List α} {bs : List β} (h : f a = g b) (hs : as.findSome? f = bs.findSome? g) :
    (a :: as).findSome? f = (b :: bs).findSome? g := by
  rw [List.findSome?_cons, List.findSome?_cons, h, hs]

theorem findSome?_cons_cons_self {α β : Type} (f : α → Option β) (a : α) (as : List α) :
    (a :: a :: as).findSome? f = (a :: as).findSome? f := by
  cases h : f a <;> simp [h]

/-! ## Going up -/

/-- The names that stand in pieces. -/
def names (pieces : List String) : Location := pieces.filter fun piece => !Path.isIdle piece

/-- Without two dots every name leads one directory further. -/
theorem eq_append_names {pieces : List String} (hup : ".." ∉ pieces) {base d : Location}
    (hd : pieces.foldlM t.enter? base = some d) : d = base ++ names pieces := by
  induction pieces generalizing base with
  | nil =>
    obtain rfl : base = d := Option.some.inj hd
    simp [names]
  | cons piece pieces ih =>
    rw [List.mem_cons, not_or] at hup
    rw [List.foldlM_cons] at hd
    obtain ⟨l, hl, hd⟩ := Option.bind_eq_some_iff.1 hd
    rw [ih hup.2 hd]
    by_cases hidle : Path.isIdle piece = true
    · obtain rfl : base = l := Option.some.inj ((enter?_of_isIdle hidle base).symm.trans hl)
      simp [names, hidle]
    · rw [enter?, if_neg hidle, if_neg (by simpa using Ne.symm hup.1)] at hl
      split at hl
      · obtain rfl := Option.some.inj hl
        simp [names, hidle]
      · cases hl

/-- Pieces behind the last step say nothing. -/
theorem foldlM_settle (absolute : Bool) (before : List String) (base : Location) :
    (Path.settle absolute before).reverse.foldlM t.enter? base = before.reverse.foldlM t.enter? base := by
  induction before with
  | nil => rfl
  | cons piece before ih =>
    rw [Path.settle]
    split
    · rfl
    · next hstep =>
      have hidle : Path.isIdle piece = true := by
        simp only [Path.isStep, Bool.or_eq_true, not_or, Bool.not_eq_true, Bool.not_eq_false'] at hstep
        exact hstep.1
      rw [ih, List.reverse_cons, List.foldlM_append]
      cases before.reverse.foldlM t.enter? base with
      | none => rfl
      | some l =>
        show some l = [piece].foldlM t.enter? l
        simp [enter?_of_isIdle hidle]

variable {α : Type} (f : Location → Option α)

/-- A search in the directory of a path and in those of the paths above it, where `before` are the pieces of
the path, the last one first. -/
theorem findSome?_above {absolute : Bool} {before : List String} (hup : ".." ∉ before) {d : Location}
    (hd : t.directory? here ⟨absolute, before.reverse⟩ = some d) :
    (some d :: (Path.above absolute before).map (t.directory? here)).findSome? (·.bind f) =
      ((Location.around (names before.reverse)).map ((if absolute then [] else here) ++ ·)).findSome? f := by
  induction before generalizing d with
  | nil =>
    obtain rfl := Option.some.inj hd
    simp [Path.above, names, Location.around_nil, Path.base]
  | cons piece before ih =>
    have hrest : ".." ∉ before := fun h => hup (List.mem_cons_of_mem _ h)
    have hfold := hd
    rw [directory?, List.reverse_cons, List.foldlM_append] at hfold
    obtain ⟨l, hl, hpiece⟩ := Option.bind_eq_some_iff.1 hfold
    have hsettle : t.directory? here ⟨absolute, (Path.settle absolute before).reverse⟩ = some l :=
      (foldlM_settle absolute before _).trans hl
    have hrec := ih hrest hl
    by_cases hidle : Path.isIdle piece = true
    · obtain rfl : l = d := by simpa [enter?_of_isIdle hidle] using hpiece
      have hnames : names (piece :: before).reverse = names before.reverse := by simp [names, hidle]
      rw [hnames, ← hrec, Path.above]
      split
      -- the dot that a relative path begins with: the path above names the same directory
      · rw [List.map_cons, hsettle, findSome?_cons_cons_self]
      · rfl
    · have hstep : Path.isStep absolute piece before = true := by simp [Path.isStep, hidle]
      have hnames : names (piece :: before).reverse = names before.reverse ++ [piece] := by simp [names, hidle]
      have hd' : d = (if absolute then [] else here) ++ (names before.reverse ++ [piece]) := by
        rw [← hnames]
        exact eq_append_names (fun h => hup (List.mem_reverse.1 h)) hd
      rw [Path.above, if_pos hstep, List.map_cons, hsettle, hnames, Location.around_concat, List.map_cons]
      exact findSome?_cons_congr (by rw [Option.bind_some, hd']) hrec

/-- Without two dots, the paths above a path name the directories around its own, up to the one that it starts
from. -/
theorem findSome?_ancestors {p : Path} (hup : ".." ∉ p.pieces) {d : Location}
    (hd : t.directory? here p = some d) :
    p.ancestors.findSome? (fun q => (t.directory? here q).bind f) =
      ((Location.around d).filter (p.base here).isPrefixOf).findSome? f := by
  have hup' : ".." ∉ p.pieces.reverse := fun h => hup (List.mem_reverse.1 h)
  have hd' : t.directory? here ⟨p.absolute, p.pieces.reverse.reverse⟩ = some d := by
    rw [List.reverse_reverse]
    exact hd
  have hsearch := findSome?_above f hup' hd'
  rw [List.reverse_reverse] at hsearch
  have hbase : (if p.absolute then [] else here) = p.base here := rfl
  rw [eq_append_names hup hd, Location.filter_around, ← hbase, ← hsearch, ← hd, ← List.map_cons,
    List.findSome?_map]
  rfl

end FileTree

end TripLocale
