/-
The places of a shape: `Place s keys t` says that `s` asks for `t` under `keys`, one key for each section
on the way. The codes count as keys of the section of message texts.

The shape of all bundles is well made (`wellMade_whole`): a section names each of its keys once, no key
has a dot or a bracket, and a list has no more items than there are positions. So the keys that lead to a
place, joined by dots, parse back to these keys (`parse_dotted`).
-/
import TripLocale.Proofs.Bundle.Leaves
import TripLocale.Shape.Table

namespace TripLocale

/-! ## Paths of keys -/

namespace KeyPath

/-- A text of one character cuts behind a text without it. -/
theorem cutsBehind_singleton {x : Char} {cs : List Char} (h : x ∉ cs) : Text.CutsBehind [x] cs := by
  apply (Text.borderless_singleton x).cutsBehind
  intro hin
  exact h (hin.subset (List.mem_singleton_self x))

/-- A key that stands for itself between dots. -/
def isPlain (key : String) : Bool :=
  !key.isEmpty && key.toList.all fun c => c != '.' && c != '[' && c != ']'

theorem plainKey_of_isPlain {key : String} (h : isPlain key = true) : PlainKey "." key := by
  rw [isPlain, Bool.and_eq_true, List.all_eq_true] at h
  have without : ∀ c ∈ key.toList, c ≠ '.' ∧ c ≠ '[' ∧ c ≠ ']' := fun c hc => by
    simpa [and_assoc] using h.2 c hc
  refine ⟨by simpa using h.1, fun hm => (without _ hm).2.1 rfl, fun hm => (without _ hm).2.2 rfl, ?_⟩
  exact cutsBehind_singleton fun hm => (without _ hm).1 rfl

theorem plainSegment_keys {keys : List String} (h : ∀ k ∈ keys, isPlain k = true) :
    ∀ s ∈ keys.map Segment.key, PlainSegment "." s := by
  rw [List.forall_mem_map]
  exact fun k hk => plainKey_of_isPlain (h k hk)

/-- Keys are chunks of their own. -/
theorem chunkTexts_keys (keys : List String) :
    chunkTexts (keys.map Segment.key) = keys.map String.toList := by
  induction keys with
  | nil => rfl
  | cons k keys ih =>
    have hb : BeginsChunk (keys.map Segment.key) := by
      cases keys with
      | nil => exact beginsChunk_nil
      | cons k' keys => exact fun s hs => Option.some.inj hs ▸ rfl
    rw [List.map_cons, chunkTexts_cons _ hb, ih, List.map_cons, Segment.chars]

theorem flatKey_keys {keys : List String} (h : ∀ k ∈ keys, isPlain k = true) :
    flatKey "." (keys.map Segment.key) = ".".intercalate keys := by
  apply String.toList_inj.1
  rw [flatKey, toList_render fun s hs => (plainSegment_keys h s hs).wellFormed, chunkTexts_keys,
    String.toList_intercalate]

theorem parse_dotted {keys : List String} (hne : keys ≠ []) (h : ∀ k ∈ keys, isPlain k = true) :
    parse (".".intercalate keys) "." = .ok ⟨keys.map Segment.key⟩ := by
  rw [← flatKey_keys h]
  exact parse_flatKey plainSeparator_dot (by simpa using hne) (plainSegment_keys h)

theorem parse_dotted_position {keys : List String} (h : ∀ k ∈ keys, isPlain k = true) (i : Nat) :
    parse (indexedKey (".".intercalate keys) i) "." =
      .ok ⟨keys.map Segment.key ++ [.position i]⟩ := by
  rw [← flatKey_keys h, ← flatKey_position]
  refine parse_flatKey plainSeparator_dot (by simp) fun s hs => ?_
  rcases List.mem_append.1 hs with hs | hs
  · exact plainSegment_keys h s hs
  · exact List.mem_singleton.1 hs ▸ plainSegment_position i

/-- Keys joined by dots are split into these keys. -/
theorem splitOn_dotted {keys : List String} (hne : keys ≠ []) (h : ∀ k ∈ keys, isPlain k = true) :
    Text.splitOn ['.'] (".".intercalate keys).toList = keys.map String.toList := by
  refine Text.splitOn_eq_iff.2 ⟨?_, by rw [String.toList_intercalate]; rfl⟩
  rw [← chunkTexts_keys]
  refine isSplit_chunkTexts (by simp) (by decide) (by simpa using hne) ?_
  rw [List.forall_mem_map]
  exact fun k hk => (plainKey_of_isPlain (h k hk)).cuts

end KeyPath

namespace Shape

/-! ## Induction -/

theorem sizeOf_entry_lt {e : String × Shape} {entries : List (String × Shape)} (h : e ∈ entries) :
    sizeOf e.2 < sizeOf (fields entries) := by
  have he : sizeOf e < sizeOf entries := List.sizeOf_lt_of_mem h
  obtain ⟨k, s⟩ := e
  simp only [Prod.mk.sizeOf_spec] at he
  simp only [fields.sizeOf_spec]
  omega

/-- Induction over a shape: for a section, the claim may be used for the shape under each key. -/
@[elab_as_elim, induction_eliminator]
theorem induct {motive : Shape → Prop} (text : motive .text) (list : ∀ n, motive (.list n))
    (choices : motive .choices)
    (fields : ∀ entries, (∀ e ∈ entries, motive e.2) → motive (.fields entries))
    (messages : motive .messages) (s : Shape) : motive s :=
  match s with
  | .text => text
  | .list n => list n
  | .choices => choices
  | .fields entries => fields entries fun e _ => induct text list choices fields messages e.2
  | .messages => messages
termination_by sizeOf s
decreasing_by exact sizeOf_entry_lt ‹_›

/-! ## Places -/

/-- What stands under the keys of a section. -/
def entries : Shape → List (String × Shape)
  | fields entries => entries
  | messages => MessageCode.all.map fun c => (c.key, text)
  | _ => []

/-- `Place s keys t`: under `keys`, the shape `s` asks for `t`. -/
inductive Place : Shape → List String → Shape → Prop
  | here (s : Shape) : Place s [] s
  | under {s r t : Shape} {k : String} {keys : List String} :
      (k, r) ∈ s.entries → Place r keys t → Place s (k :: keys) t

/-- The shape of a bundle. -/
def whole : Shape := fields root

theorem place_nil_iff {s t : Shape} : Place s [] t ↔ t = s := by
  constructor
  · intro h
    cases h
    rfl
  · rintro rfl
    exact .here t

theorem place_cons_iff {s t : Shape} {k : String} {keys : List String} :
    Place s (k :: keys) t ↔ ∃ r, (k, r) ∈ s.entries ∧ Place r keys t := by
  constructor
  · intro h
    cases h with
    | under hm h => exact ⟨_, hm, h⟩
  · rintro ⟨r, hm, h⟩
    exact .under hm h

/-- Places under more keys lie under the places before. -/
theorem place_append_iff {s t : Shape} {keys more : List String} :
    Place s (keys ++ more) t ↔ ∃ r, Place s keys r ∧ Place r more t := by
  induction keys generalizing s with
  | nil => simp [place_nil_iff]
  | cons k keys ih =>
    simp only [List.cons_append, place_cons_iff, ih]
    constructor
    · rintro ⟨q, hq, r, hr, ht⟩
      exact ⟨r, ⟨q, hq, hr⟩, ht⟩
    · rintro ⟨r, ⟨q, hq, hr⟩, ht⟩
      exact ⟨q, hq, r, hr, ht⟩

theorem place_concat_iff {s t : Shape} {k : String} {keys : List String} :
    Place s (keys ++ [k]) t ↔ ∃ r, Place s keys r ∧ (k, t) ∈ r.entries := by
  simp [place_append_iff, place_cons_iff, place_nil_iff]

theorem kind_eq_bundle_of_mem_entries {s : Shape} {e : String × Shape} (h : e ∈ s.entries) :
    s.kind = .bundle := by
  cases s with
  | fields entries => rfl
  | messages => rfl
  | _ => cases h

/-! ## The table -/

mutual

/-- Every section names each of its keys once, all keys are plain, and a list has no more items than there
are positions. -/
def wellMade : Shape → Bool
  | fields entries => decide (entries.map (·.1)).Nodup && wellMadeEntries entries
  | list n => Text.fits 64 n
  | _ => true

def wellMadeEntries : List (String × Shape) → Bool
  | [] => true
  | (k, s) :: entries => KeyPath.isPlain k && wellMade s && wellMadeEntries entries

end

theorem wellMade_whole : whole.wellMade = true := by decide +kernel

theorem wellMadeEntries_iff {es : List (String × Shape)} :
    wellMadeEntries es = true ↔ ∀ e ∈ es, KeyPath.isPlain e.1 = true ∧ e.2.wellMade = true := by
  induction es with
  | nil => simp [wellMadeEntries]
  | cons e es ih => rw [wellMadeEntries, Bool.and_eq_true, Bool.and_eq_true, ih, List.forall_mem_cons]

theorem keys_messages : messages.entries.map (·.1) = MessageCode.all.map MessageCode.key := by
  rw [entries, List.map_map]
  rfl

theorem isPlain_codeKey (c : MessageCode) : KeyPath.isPlain c.key = true := by cases c <;> decide

theorem nodup_entries {s : Shape} (h : s.wellMade = true) : (s.entries.map (·.1)).Nodup := by
  cases s with
  | fields es =>
    rw [wellMade, Bool.and_eq_true, decide_eq_true_eq] at h
    exact h.1
  | messages => rw [keys_messages]; decide
  | _ => exact List.nodup_nil

theorem wellMade_of_mem {s : Shape} (h : s.wellMade = true) {e : String × Shape} (he : e ∈ s.entries) :
    KeyPath.isPlain e.1 = true ∧ e.2.wellMade = true := by
  cases s with
  | fields es =>
    rw [wellMade, Bool.and_eq_true] at h
    exact wellMadeEntries_iff.1 h.2 e he
  | messages =>
    obtain ⟨c, -, rfl⟩ := List.mem_map.1 he
    exact ⟨isPlain_codeKey c, rfl⟩
  | _ => cases he

theorem Place.wellMade {s t : Shape} {keys : List String} (h : Place s keys t) (hs : s.wellMade = true) :
    t.wellMade = true ∧ ∀ k ∈ keys, KeyPath.isPlain k = true := by
  induction h with
  | here s => exact ⟨hs, nofun⟩
  | under hm h ih =>
    obtain ⟨hk, hr⟩ := wellMade_of_mem hs hm
    exact ⟨(ih hr).1, List.forall_mem_cons.2 ⟨hk, (ih hr).2⟩⟩

/-- Keys lead to one place only. -/
theorem Place.unique {s t t' : Shape} {keys : List String} (hs : s.wellMade = true) (h : Place s keys t)
    (h' : Place s keys t') : t = t' := by
  induction h generalizing t' with
  | here s => exact (place_nil_iff.1 h').symm
  | under hm h ih =>
    obtain ⟨r', hm', h'⟩ := place_cons_iff.1 h'
    have hfind := find?_key_of_mem (nodup_entries hs) hm
    rw [find?_key_of_mem (nodup_entries hs) hm'] at hfind
    obtain rfl := Option.some.inj hfind
    exact ih (wellMade_of_mem hs hm).2 h'

/-- Keys of the table can be told apart in a path. -/
theorem Place.isPlain {t : Shape} {keys : List String} (h : Place whole keys t) :
    ∀ k ∈ keys, KeyPath.isPlain k = true := (h.wellMade wellMade_whole).2

/-! ## The message texts -/

theorem place_messages : Place whole ["tripPlanner", "msgcodes"] messages :=
  .under (List.mem_of_getElem? (i := 8) rfl) (.under (List.mem_of_getElem? (i := 3) rfl) (.here _))

/-- A shape without keys leads nowhere. -/
theorem Place.eq_of_entries_nil {s t : Shape} {keys : List String} (h : Place s keys t) (hs : s.entries = []) :
    t = s := by
  cases h with
  | here => rfl
  | under hm h =>
    rw [hs] at hm
    cases hm

/-- No section lies below the message texts. -/
theorem Place.eq_messages {t : Shape} {keys : List String} (h : Place messages keys t)
    (ht : t.kind = .bundle) : keys = [] ∧ t = messages := by
  cases h with
  | here => exact ⟨rfl, rfl⟩
  | under hm h =>
    obtain ⟨c, -, hc⟩ := List.mem_map.1 hm
    cases hc
    rw [h.eq_of_entries_nil rfl] at ht
    cases ht

end Shape

end TripLocale
