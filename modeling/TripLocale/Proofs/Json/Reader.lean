/-
Reading the tokens of a tree, and how deep what was read can be.

The tokens of a tree take the reader from where a value may come to where that value has just been read
(`run?_tokens`), if what they open fits the limit; so a text is read as the tree that it writes, however it
writes it (`Draft.read?_of_writes`), and a printed value is read back (`read?_render`, `Draft.read?_render`). In
the other direction, `Reading.Fits` says that the trees gathered in a reading lie within the limit where they
stand; it is kept by every token, so no tree that was read exceeds the limit (`depth_le_of_ofTokens?`).
-/
import TripLocale.Json.Printer
import TripLocale.Json.Reader
import TripLocale.Proofs.Json.Tokens

namespace TripLocale.Json

namespace Reading

variable {σ ν : Type} {limit : Nat}

/-- The reading after more tokens. -/
def run? (limit : Nat) (r : Reading σ ν) (ts : List (Token σ ν)) : Option (Reading σ ν) :=
  ts.foldlM (step? limit) r

theorem run?_cons {r q : Reading σ ν} {t : Token σ ν} (h : step? limit r t = some q)
    (ts : List (Token σ ν)) : run? limit r (t :: ts) = run? limit q ts := by
  rw [run?, List.foldlM_cons, h]
  rfl

theorem run?_append {r q : Reading σ ν} {ts : List (Token σ ν)} (h : run? limit r ts = some q)
    (us : List (Token σ ν)) : run? limit r (ts ++ us) = run? limit q us := by
  unfold run? at *
  rw [List.foldlM_append, h]
  rfl

/-! ## Reading what was printed -/

theorem step?_openBracket {around : List (Frame σ ν)} (h : around.length < limit) :
    step? limit (value around) .openBracket = some (firstItem around) := if_pos h

theorem step?_openBrace {around : List (Frame σ ν)} (h : around.length < limit) :
    step? limit (value around) .openBrace = some (firstName around) := if_pos h

theorem step?_firstItem {around : List (Frame σ ν)} {t : Token σ ν} (h : t ≠ .closeBracket) :
    step? limit (firstItem around) t = begin? limit (.items [] :: around) t := by
  cases t with
  | closeBracket => exact absurd rfl h
  | _ => rfl

/-- A value does not begin as an array ends. -/
theorem exists_tokens_cons (j : Tree σ ν) : ∃ t ts, tokens j = t :: ts ∧ t ≠ .closeBracket := by
  cases j with
  | array items => cases items <;> exact ⟨_, _, rfl, nofun⟩
  | object members => cases members <;> exact ⟨_, _, rfl, nofun⟩
  | _ => exact ⟨_, _, rfl, nofun⟩

theorem run?_firstItem_tokens (j : Tree σ ν) (around : List (Frame σ ν)) :
    run? limit (firstItem around) (tokens j) = run? limit (value (.items [] :: around)) (tokens j) := by
  obtain ⟨t, ts, h, ht⟩ := exists_tokens_cons j
  rw [h, run?, List.foldlM_cons, step?_firstItem ht]
  rfl

theorem run?_tokensItems {around : List (Frame σ ν)} {js before : List (Tree σ ν)}
    (h : ∀ j ∈ js, ∀ before, run? limit (value (.items before :: around)) (tokens j) =
      some (afterItem (j :: before) around)) :
    run? limit (afterItem before around) (tokensItems js) =
      some (close (.array (before.reverse ++ js)) around) := by
  induction js generalizing before with
  | nil => rw [tokensItems, run?_cons rfl, List.append_nil]; rfl
  | cons j js ih =>
    obtain ⟨hj, hjs⟩ := List.forall_mem_cons.1 h
    rw [tokensItems, List.cons_append, run?_cons rfl, run?_append (hj before), ih hjs]
    simp

theorem run?_tokensMembers {around : List (Frame σ ν)} {ms before : List (σ × Tree σ ν)}
    (h : ∀ m ∈ ms, ∀ before, run? limit (value (.member before m.1 :: around)) (tokens m.2) =
      some (afterMember (m :: before) around)) :
    run? limit (afterMember before around) (tokensMembers ms) =
      some (close (.object (before.reverse ++ ms)) around) := by
  induction ms generalizing before with
  | nil => rw [tokensMembers, run?_cons rfl, List.append_nil]; rfl
  | cons m ms ih =>
    obtain ⟨k, j⟩ := m
    obtain ⟨hj, hms⟩ := List.forall_mem_cons.1 h
    rw [tokensMembers, List.cons_append, List.cons_append, List.cons_append, run?_cons rfl, run?_cons rfl,
      run?_cons rfl, run?_append (hj before), ih hms]
    simp

/-- Where a value may come, its tokens are read as that value. -/
theorem run?_tokens {j : Tree σ ν} {around : List (Frame σ ν)} (h : around.length + j.depth ≤ limit) :
    run? limit (value around) (tokens j) = some (close j around) := by
  induction j using Tree.induct generalizing around with
  | null => rfl
  | bool b => rfl
  | number n => rfl
  | string s => rfl
  | array items ih =>
    obtain ⟨hn, hd⟩ := Tree.add_depth_array_le_iff.1 h
    -- an item has the frame of the array around it, whatever items came before
    have hitem : ∀ j ∈ items, ∀ before, run? limit (value (.items before :: around)) (tokens j) =
        some (afterItem (j :: before) around) := fun j hj before => ih j hj (hd j hj)
    cases items with
    | nil =>
      rw [tokens, run?_cons (step?_openBracket hn)]
      rfl
    | cons j js =>
      obtain ⟨hj, hjs⟩ := List.forall_mem_cons.1 hitem
      rw [tokens, List.cons_append, run?_cons (step?_openBracket hn),
        run?_append ((run?_firstItem_tokens j around).trans (hj [])), run?_tokensItems hjs]
      rfl
  | object members ih =>
    obtain ⟨hn, hd⟩ := Tree.add_depth_object_le_iff.1 h
    have hmember : ∀ m ∈ members, ∀ before, run? limit (value (.member before m.1 :: around))
        (tokens m.2) = some (afterMember (m :: before) around) := fun m hm before => ih m hm (hd m hm)
    cases members with
    | nil =>
      rw [tokens, run?_cons (step?_openBrace hn)]
      rfl
    | cons m ms =>
      obtain ⟨k, j⟩ := m
      obtain ⟨hj, hms⟩ := List.forall_mem_cons.1 hmember
      rw [tokens, List.cons_append, List.cons_append, List.cons_append, run?_cons (step?_openBrace hn),
        run?_cons rfl, run?_cons rfl, run?_append (hj []), run?_tokensMembers hms]
      rfl

end Reading

/-! ## The depth of what was read -/

/-- The trees that an open container holds. -/
def Frame.trees {σ ν : Type} : Frame σ ν → List (Tree σ ν)
  | .items before => before
  | .member before _ => before.map (·.2)

namespace Reading

variable {σ ν : Type} {limit : Nat}

/-- The trees held by each open container, the innermost first. -/
def held : Reading σ ν → List (List (Tree σ ν))
  | value around => around.map Frame.trees
  | firstItem around | firstName around => [] :: around.map Frame.trees
  | name before around | colon before _ around => before.map (·.2) :: around.map Frame.trees
  | afterItem items around => items :: around.map Frame.trees
  | afterMember members around => members.map (·.2) :: around.map Frame.trees
  | finished _ => []

/-- Trees held by open containers stay within the limit where they stand. -/
def HeldFit (limit : Nat) : List (List (Tree σ ν)) → Prop
  | [] => True
  | js :: outer => outer.length < limit ∧ (∀ j ∈ js, outer.length + 1 + j.depth ≤ limit) ∧ HeldFit limit outer

/-- No tree of the reading exceeds the limit, whatever is read next. -/
def Fits (limit : Nat) : Reading σ ν → Prop
  | finished j => j.depth ≤ limit
  | r => HeldFit limit r.held

theorem HeldFit.length_le {held : List (List (Tree σ ν))} (h : HeldFit limit held) : held.length ≤ limit := by
  cases held with
  | nil => exact Nat.zero_le _
  | cons js outer => exact h.1

theorem fits_close {j : Tree σ ν} {around : List (Frame σ ν)} (h : HeldFit limit (around.map Frame.trees))
    (hj : around.length + j.depth ≤ limit) : (close j around).Fits limit := by
  match around, h with
  | [], _ => show j.depth ≤ limit; simpa using hj
  | .items before :: around, h =>
    refine ⟨h.1, List.forall_mem_cons.2 ⟨?_, h.2.1⟩, h.2.2⟩
    simpa using hj
  | .member before s :: around, h =>
    refine ⟨h.1, List.forall_mem_cons.2 ⟨?_, h.2.1⟩, h.2.2⟩
    simpa using hj

theorem fits_of_begin? {around : List (Frame σ ν)} {t : Token σ ν} {q : Reading σ ν}
    (h : HeldFit limit (around.map Frame.trees)) (hq : begin? limit around t = some q) : q.Fits limit := by
  have hlen : around.length + 0 ≤ limit := by simpa using h.length_le
  cases t with
  | null => cases hq; exact fits_close h hlen
  | bool b => cases hq; exact fits_close h hlen
  | number n => cases hq; exact fits_close h hlen
  | string s => cases hq; exact fits_close h hlen
  | openBracket =>
    obtain ⟨hn, hq⟩ := Option.ite_none_right_eq_some.1 hq
    cases hq
    exact ⟨by simpa using hn, nofun, h⟩
  | openBrace =>
    obtain ⟨hn, hq⟩ := Option.ite_none_right_eq_some.1 hq
    cases hq
    exact ⟨by simpa using hn, nofun, h⟩
  | _ => cases hq

/-- One more token keeps the limit. -/
theorem Fits.step? {r q : Reading σ ν} {t : Token σ ν} (h : r.Fits limit) (hq : step? limit r t = some q) :
    q.Fits limit := by
  cases r with
  | value around => exact fits_of_begin? h hq
  | firstItem around =>
    by_cases ht : t = .closeBracket
    · subst ht
      cases hq
      exact fits_close h.2.2 (Tree.add_depth_array_le_iff.2 ⟨by simpa using h.1, nofun⟩)
    -- an array that does not end here is one without items so far
    · rw [step?_firstItem ht] at hq
      have hitems : HeldFit limit ((.items [] :: around).map Frame.trees) := h
      exact fits_of_begin? hitems hq
  | firstName around =>
    cases t with
    | closeBrace =>
      cases hq
      exact fits_close h.2.2 (Tree.add_depth_object_le_iff.2 ⟨by simpa using h.1, nofun⟩)
    | string s => cases hq; exact h
    | _ => cases hq
  | name before around =>
    cases t with
    | string s => cases hq; exact h
    | _ => cases hq
  | colon before s around =>
    cases t with
    | colon => cases hq; exact h
    | _ => cases hq
  | afterItem items around =>
    cases t with
    | comma => cases hq; exact h
    | closeBracket =>
      cases hq
      exact fits_close h.2.2 (Tree.add_depth_array_le_iff.2 ⟨by simpa using h.1, by simpa using h.2.1⟩)
    | _ => cases hq
  | afterMember members around =>
    cases t with
    | comma => cases hq; exact h
    | closeBrace =>
      cases hq
      have hmembers : ∀ m ∈ members.reverse, around.length + 1 + m.2.depth ≤ limit := fun m hm => by
        simpa using h.2.1 m.2 (List.mem_map_of_mem (List.mem_reverse.1 hm))
      exact fits_close h.2.2 (Tree.add_depth_object_le_iff.2 ⟨by simpa using h.1, hmembers⟩)
    | _ => cases hq
  | finished j => cases hq

theorem Fits.run? {r q : Reading σ ν} {ts : List (Token σ ν)} (h : r.Fits limit)
    (hq : run? limit r ts = some q) : q.Fits limit := by
  induction ts generalizing r with
  | nil => cases hq; exact h
  | cons t ts ih =>
    rw [Reading.run?, List.foldlM_cons] at hq
    obtain ⟨p, hp, hq⟩ := Option.bind_eq_some_iff.1 hq
    exact ih (h.step? hp) hq

end Reading

/-! ## Trees -/

/-- The tokens of a value within the limit are read as that value. -/
theorem ofTokens?_tokens {σ ν : Type} {limit : Nat} {j : Tree σ ν} (h : j.depth ≤ limit) :
    Tree.ofTokens? limit (tokens j) = some j := by
  have hrun : Reading.run? limit (.value []) (tokens j) = some (.finished j) :=
    Reading.run?_tokens (by simpa using h)
  unfold Reading.run? at hrun
  rw [Tree.ofTokens?, hrun]
  rfl

theorem depth_le_of_ofTokens? {σ ν : Type} {limit : Nat} {ts : List (Token σ ν)} {j : Tree σ ν}
    (h : Tree.ofTokens? limit ts = some j) : j.depth ≤ limit := by
  obtain ⟨r, hr, hj⟩ := Option.bind_eq_some_iff.1 h
  have hstart : (Reading.value [] : Reading σ ν).Fits limit := trivial
  have hfits := hstart.run? hr
  cases r with
  | finished j' => cases hj; exact hfits
  | _ => cases hj

/-! ## Texts -/

/-- A value within the limit is read back from its compact text. -/
theorem read?_render {j : Json} (hw : Wordless j) (hd : j.depth ≤ depthLimit) : read? j.render = some j := by
  have hscan : scan? j.render.toList = some ((tokens j).map Token.raw) := by
    rw [render, String.toList_ofList, scan?_chars hw]
  rw [read?, hscan]
  show (((tokens j).map Token.raw).mapM Token.settled?).bind (Tree.ofTokens? depthLimit) = some j
  rw [Token.mapM_settled?_raw, Option.bind_some, ofTokens?_tokens hd]

/-- However a tree is written, its text is read as that tree. -/
theorem Draft.read?_of_writes {text : String} {d : Draft} (h : Writes text d) : read? text = some d := by
  have hscan : scan? text.toList = some (tokens d) := scan?_spelling h (isChain_tokens d)
  rw [read?, hscan]
  exact ofTokens?_tokens (depth_le_length_tokens d)

/-- A value of any depth is read back from its compact text as a draft. -/
theorem Draft.read?_render {j : Json} (h : Wordless j) : read? j.render = some j.draft :=
  read?_of_writes (writes_render h)

theorem depth_le_of_read? {text : String} {j : Json} (h : read? text = some j) : j.depth ≤ depthLimit := by
  obtain ⟨raw, -, h⟩ := Option.bind_eq_some_iff.1 h
  obtain ⟨ts, -, h⟩ := Option.bind_eq_some_iff.1 h
  exact depth_le_of_ofTokens? h

end TripLocale.Json
