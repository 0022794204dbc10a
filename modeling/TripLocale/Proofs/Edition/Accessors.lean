/-
What an accepted edition can be used for: every place of the table is found by its path, with the accessor
for its kind, every item of a list by its position, and every message code by its number
(`read_accessors`).

The check goes from section to section by key and a lookup goes by the text of a path; they meet in
`Value.under?`, since the keys of the table are plain and their path parses back to them.
-/
import TripLocale.Edition
import TripLocale.Proofs.Shape.Conform

namespace TripLocale

/-! ## Lookups by keys -/

namespace Target

theorem reach_keys {v u : Value} {keys : List String} (h : v.under? keys = some u) :
    (value v).reach (keys.map Segment.key) = .ok (value u) := by
  induction keys generalizing v with
  | nil =>
    cases h
    rfl
  | cons k keys ih =>
    rw [Value.under?_cons] at h
    obtain ⟨w, hw, hu⟩ := Option.bind_eq_some_iff.1 h
    obtain ⟨es, rfl, hw⟩ := Value.child?_eq_some_iff.1 hw
    have hstep : (value (.bundle es)).step (.key k) = .ok (value w) :=
      step_eq_ok_iff.2 (.inl ⟨es, w, rfl, hw, rfl⟩)
    rw [List.map_cons, reach_cons, hstep]
    exact ih hu

end Target

namespace Bundle

variable {b : Bundle} {keys : List String} {u : Value}

theorem get?_of_parse {path : String} {p : KeyPath} (h : KeyPath.parse path "." = .ok p) :
    b.get? path = (b.root.reach p.segments).toOption := by
  have hlookup : b.lookup path "." = Target.follow path "." "" b.root p.segments := lookup_of_parse h
  rw [get?, KeyPath.defaultSeparator, hlookup]
  cases hr : b.root.reach p.segments with
  | ok t => rw [Target.follow_eq_ok_iff.2 hr]; rfl
  | error stuck =>
    cases hf : Target.follow path "." "" b.root p.segments with
    | ok t => cases hr.symm.trans (Target.follow_eq_ok_iff.1 hf)
    | error e => rfl

theorem get?_dotted (hne : keys ≠ []) (hk : ∀ k ∈ keys, KeyPath.isPlain k = true)
    (hu : b.under? keys = some u) : b.get? (".".intercalate keys) = some (.value u) := by
  have hreach : b.root.reach (keys.map Segment.key) = .ok (.value u) := Target.reach_keys hu
  rw [get?_of_parse (KeyPath.parse_dotted hne hk), hreach]
  rfl

/-- A position behind the path of a list finds an item when there is one. -/
theorem get?_dotted_position (hk : ∀ k ∈ keys, KeyPath.isPlain k = true)
    (hu : b.under? keys = some u) {n : Nat} (hn : (Target.value u).size? = some n)
    (hf : n < Nat.pow 2 64) (i : Nat) :
    b.get? (".".intercalate keys ++ "[" ++ toString i ++ "]") = (Target.value u).item? i := by
  have hreach : b.root.reach (keys.map Segment.key) = .ok (.value u) := Target.reach_keys hu
  have hstep : b.root.reach (keys.map Segment.key ++ [.position i]) =
      (Target.value u).step (.position i) := Target.reach_concat hreach _
  show b.get? (indexedKey (".".intercalate keys) i) = _
  rw [get?_of_parse (KeyPath.parse_dotted_position hk i), hstep, Target.step_of_size? hn]
  by_cases hi : i < n
  · have hpos : (Segment.position i).index? = some i :=
      Segment.index?_eq_some_iff.2 ⟨Nat.lt_trans hi hf, rfl⟩
    rw [hpos, Option.bind_some]
    cases (Target.value u).item? i <;> rfl
  · have hnone : (Target.value u).item? i = none := by
      simpa [hi] using (Target.isSome_item?_iff hn (i := i)).not.2 hi
    have hbind : (Segment.position i).index?.bind (Target.value u).item? = none := by
      rw [Option.bind_eq_none_iff]
      intro j hj
      obtain rfl := Text.toString_inj (Segment.index?_eq_some_iff.1 hj).2
      exact hnone
    rw [hbind, hnone]
    rfl

end Bundle

/-! ## Accepted editions -/

namespace Edition

variable {language : Language} {text : String} {b : Bundle}

theorem read_eq_ok_iff : read language text = .ok b ↔
    Bundle.parse text = .ok b ∧ b.shapeErrors = [] ∧ b.text? classNameKey = some language.className := by
  unfold read
  cases Bundle.parse text with
  | error e => exact ⟨nofun, fun h => nomatch h.1⟩
  | ok b' =>
    constructor
    · intro h
      dsimp only at h
      split at h
      · cases h
      · next hs =>
        split at h
        · next hc =>
          cases h
          exact ⟨rfl, not_not.1 hs, hc⟩
        · cases h
    · rintro ⟨h, hs, hc⟩
      cases h
      simp [hs, hc]

end Edition

namespace Bundle

variable {b : Bundle} {keys : List String} {t : Shape}

/-- What a place of the table holds, once nothing is reported of the bundle. -/
theorem get?_of_place (h : b.shapeErrors = []) (hp : Shape.Place .whole keys t) (hne : keys ≠ []) :
    ∃ u, b.under? keys = some u ∧ t.Accepts u ∧ b.get? (".".intercalate keys) = some (.value u) := by
  obtain ⟨u, hu, ha⟩ := (shapeErrors_eq_nil_iff.1 h).under? hp
  exact ⟨u, hu, ha, get?_dotted hne hp.isPlain hu⟩

theorem ne_nil_of_place (hp : Shape.Place .whole keys t) (ht : t.kind ≠ .bundle) : keys ≠ [] := by
  rintro rfl
  cases Shape.place_nil_iff.1 hp
  exact ht rfl

theorem isSome_text?_of_place (h : b.shapeErrors = []) (hp : Shape.Place .whole keys .text) :
    (b.text? (".".intercalate keys)).isSome = true := by
  obtain ⟨u, -, ha, hget⟩ := get?_of_place h hp (ne_nil_of_place hp nofun)
  obtain ⟨t, rfl⟩ := Shape.exists_text_of_accepts ha
  rw [text?, hget]
  rfl

theorem isSome_choices?_of_place (h : b.shapeErrors = []) (hp : Shape.Place .whole keys .choices) :
    (b.choices? (".".intercalate keys)).isSome = true := by
  obtain ⟨u, -, ha, hget⟩ := get?_of_place h hp (ne_nil_of_place hp nofun)
  have hk : u.kind = .choices := (Shape.accepts_iff.1 ha).1.kind
  cases u with
  | choices cs => rw [choices?, hget]; rfl
  | _ => cases hk

/-- The list at a place of the table has the size asked for, and its items are found at the positions
below that size. -/
theorem list?_of_place (h : b.shapeErrors = []) {n : Nat} (hp : Shape.Place .whole keys (.list n)) :
    ∃ items, b.list? (".".intercalate keys) = some items ∧ items.length = n ∧
      ∀ i : Nat, (b.text? (".".intercalate keys ++ "[" ++ toString i ++ "]")).isSome = true ↔ i < n := by
  obtain ⟨u, hu, ha, hget⟩ := get?_of_place h hp (ne_nil_of_place hp nofun)
  have hadmits := (Shape.accepts_iff.1 ha).1
  cases u with
  | list items =>
    have hsize : items.length = n := hadmits.size n rfl
    have hfits : n < Nat.pow 2 64 := by
      simpa [Shape.wellMade, Text.fits] using (hp.wellMade Shape.wellMade_whole).1
    refine ⟨items, by rw [list?, hget]; rfl, hsize, fun i => ?_⟩
    rw [text?, get?_dotted_position hp.isPlain hu (n := n) (by rw [Target.size?, hsize]) hfits,
      Target.item?, ← hsize]
    cases hi : items[i]? with
    | none => simpa using hi
    | some t => simpa [Target.text?] using (List.getElem?_eq_some_iff.1 hi).1
  | _ => cases hadmits.kind

theorem isSome_bundle?_of_place (h : b.shapeErrors = []) (hp : Shape.Place .whole keys t)
    (ht : t.kind = .bundle) (hne : keys ≠ []) : (b.bundle? (".".intercalate keys)).isSome = true := by
  obtain ⟨u, -, ha, hget⟩ := get?_of_place h hp hne
  obtain ⟨es, rfl⟩ := Shape.exists_bundle_of_kind ha ht
  rw [bundle?, hget]
  rfl

/-! ## Message texts -/

theorem isSome_messageFor? (h : b.shapeErrors = []) (c : MessageCode) :
    (b.messageFor? c).isSome = true := by
  obtain ⟨u, -, ha, hget⟩ := get?_of_place h Shape.place_messages nofun
  obtain ⟨es, rfl⟩ := Shape.exists_bundle_of_kind ha rfl
  have hcode : (c.key, Shape.text) ∈ Shape.messages.entries :=
    List.mem_map_of_mem (f := fun c => (c.key, Shape.text)) (MessageCode.mem_all c)
  obtain ⟨w, hw, hacc⟩ := ((Shape.accepts_bundle_iff rfl).1 ha).1 _ hcode
  obtain ⟨t, rfl⟩ := Shape.exists_text_of_accepts hacc
  have hpath : b.get? messagesPath = some (.value (.bundle es)) := hget
  rw [messageFor?, bundle?, hpath]
  simp [Target.value?, Value.bundle?, hw, Value.text?]

/-- There is a text for the numbers that are codes, and for no other. -/
theorem isSome_messageForNumber?_iff (h : b.shapeErrors = []) {n : UInt16} :
    (b.messageForNumber? n).isSome = true ↔ ∃ c : MessageCode, c.number = n := by
  rw [messageForNumber?]
  cases hc : MessageCode.ofNumber? n with
  | none =>
    refine ⟨nofun, ?_⟩
    rintro ⟨c, hn⟩
    rw [MessageCode.ofNumber?_eq_some_iff.2 hn] at hc
    cases hc
  | some c =>
    rw [Option.bind_some]
    exact ⟨fun _ => ⟨c, MessageCode.ofNumber?_eq_some_iff.1 hc⟩, fun _ => isSome_messageFor? h c⟩

end Bundle

/-! ## Use of an edition -/

namespace Edition

/-- What was accepted as an edition can be used: its places are found by path with the accessor for their
kind, its lists by every position and by no other, and its messages by the numbers of the codes. -/
theorem read_accessors {language : Language} {text : String} {b : Bundle}
    (h : read language text = .ok b) :
    (∀ keys t, Shape.Place .whole keys t → match t with
      | .text => (b.text? (".".intercalate keys)).isSome = true
      | .choices => (b.choices? (".".intercalate keys)).isSome = true
      | .list n => ∃ items, b.list? (".".intercalate keys) = some items ∧ items.length = n ∧
          ∀ i : Nat,
            (b.text? (".".intercalate keys ++ "[" ++ toString i ++ "]")).isSome = true ↔ i < n
      | .fields _ | .messages => keys ≠ [] → (b.bundle? (".".intercalate keys)).isSome = true) ∧
    b.text? "CLASS_NAME" = some language.className ∧
    ∀ n : UInt16,
      ((b.messageForNumber? n).isSome = true ↔ ∃ c : MessageCode, c.number = n) ∧
      ((b.responseMessage? n none).isSome = true ↔ ∃ c : MessageCode, c.number = n) := by
  obtain ⟨-, hshape, hclass⟩ := read_eq_ok_iff.1 h
  refine ⟨fun keys t hp => ?_, hclass, fun n => ⟨Bundle.isSome_messageForNumber?_iff hshape,
    Bundle.isSome_messageForNumber?_iff hshape⟩⟩
  cases t with
  | text => exact Bundle.isSome_text?_of_place hshape hp
  | list n => exact Bundle.list?_of_place hshape hp
  | choices => exact Bundle.isSome_choices?_of_place hshape hp
  | fields es => exact Bundle.isSome_bundle?_of_place hshape hp rfl
  | messages => exact Bundle.isSome_bundle?_of_place hshape hp rfl

theorem read_sample :
    let b := Bundle.sample "otp.locale.Polish" []
    read .polish b.toJson.render = .ok b ∧ (b.text? "time.months[11]").isSome = true ∧
      (b.text? "time.months[12]").isSome = false ∧ (b.messageForNumber? 404).isSome = true := by
  intro b
  have hdepth : b.toJson.depth ≤ Json.depthLimit := by decide +kernel
  have hparse : Bundle.parse b.toJson.render = .ok b :=
    Bundle.parse_eq_ok_iff.2 ⟨Bundle.read?_render_toJson hdepth, Bundle.readable_sample _⟩
  have hplace : Shape.Place .whole [classNameKey] .text :=
    .under (List.mem_of_getElem? (i := 9) rfl) (.here _)
  have hclass : b.text? classNameKey = some "otp.locale.Polish" := by
    have hget : b.get? classNameKey = some (.value (.text "otp.locale.Polish")) :=
      Bundle.get?_dotted (List.cons_ne_nil _ _) hplace.isPlain (Bundle.under?_sample _ _ hplace)
    rw [Bundle.text?, hget]
    rfl
  have h : read .polish b.toJson.render = .ok b :=
    read_eq_ok_iff.2 ⟨hparse, Bundle.shapeErrors_sample _, hclass⟩
  have hmonths : Shape.Place .whole ["time", "months"] (.list 12) :=
    .under (List.mem_of_getElem? (i := 6) rfl) (.under (List.mem_of_getElem? (i := 4) rfl) (.here _))
  obtain ⟨hplaces, -, hmessages⟩ := read_accessors h
  obtain ⟨-, -, -, hitem⟩ := hplaces _ _ hmonths
  refine ⟨h, (hitem 11).2 (by decide), ?_, (hmessages 404).1.2 ⟨.pathNotFound, rfl⟩⟩
  exact Bool.eq_false_iff.2 fun he => absurd ((hitem 12).1 he) (by decide)

end Edition

end TripLocale
