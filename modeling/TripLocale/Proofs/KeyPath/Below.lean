/-
Which paths are below which, by their texts: where the last chunk of a path ends at the first separator behind
it, a text goes on from that of the path with a separator or a bracket exactly when its segments go on from
those of the path (`isChildKey_render_iff`). A separator that does not overlap itself ends every chunk so, and
with it this holds of any two texts that parse (`isChildKey_iff_prefix`).

A text that goes on so is cut into the same chunks as the path, up to the last one, which may have more indexes
(`splitOn_append`); and a chunk with more indexes behind it reads as more segments (`readChunk_brackets`).
-/
import TripLocale.Proofs.KeyPath.Plain

namespace TripLocale

open Text

/-! ## Splitting a longer text -/

namespace Text

/-- A text without the separator stays in one piece with a character that the separator has not. -/
theorem exists_splitOn_append {sep c : List Char} {x : Char} (hs : sep ≠ []) (hx : x ∉ sep)
    (hc : ¬ sep <:+: c) (rest : List Char) :
    ∃ more ps, splitOn sep (c ++ x :: rest) = (c ++ x :: more) :: ps := by
  rw [splitOn_eq_pieces hs]
  induction c with
  | nil =>
    have hnot : ¬ sep <+: x :: rest := fun h => hs (List.prefix_nil.1 (KeyPath.starts_of_not_mem (a := []) hx h))
    rw [List.nil_append, pieces_cons_of_not_starts hnot]
    cases pieces sep 0 rest with
    | nil => exact ⟨[], [], rfl⟩
    | cons p ps => exact ⟨p, ps, rfl⟩
  | cons y c ih =>
    rw [List.infix_cons_iff, not_or] at hc
    have hnot : ¬ sep <+: y :: (c ++ x :: rest) := fun h => hc.1 (KeyPath.starts_of_not_mem (a := y :: c) hx h)
    obtain ⟨more, ps, he⟩ := ih hc.2
    rw [List.cons_append, pieces_cons_of_not_starts hnot, he]
    exact ⟨more, ps, rfl⟩

end Text

namespace KeyPath

/-! ## Reading a longer chunk -/

theorem readIndexes_append {cs : List Char} {segments : List Segment}
    (h : readIndexes none cs = .ok segments) (more : List Char) :
    readIndexes none (cs ++ more) = (segments ++ ·) <$> readIndexes none more := by
  obtain ⟨hw, rfl⟩ := readIndexes_eq_ok_iff.1 h
  exact readIndexes_flatMap_chars hw more

/-- With more brackets behind it a chunk reads as more segments. -/
theorem readChunk_brackets {first : Bool} {chunk more : List Char} {segments : List Segment}
    (h : readChunk first chunk = .ok segments) (hm : Bracketed more) :
    readChunk first (chunk ++ more) = (segments ++ ·) <$> readIndexes none more := by
  obtain ⟨name, rest, rfl, hn, hr⟩ := exists_name chunk
  rw [readChunk_append first hn hr] at h
  rw [List.append_assoc, readChunk_append first hn (hr.append hm)]
  split at h
  · cases h
  next hc =>
  rw [if_neg hc]
  split at h
  · next he =>
    split at h
    · cases h
    next hf =>
    rw [if_pos he, if_neg (fun hor => hf (hor.imp_left fun e => (List.append_eq_nil_iff.1 e).1)),
      readIndexes_append h]
  · next he =>
    obtain ⟨indexes, hi, rfl⟩ := map_eq_ok_iff.1 h
    rw [if_neg he, readIndexes_append hi]
    cases readIndexes none more <;> rfl

/-- Paths with the same chunks, but for what follows within the last chunk of one and behind it. -/
theorem prefix_of_chunkTexts {p q : List Segment} (hp : ∀ s ∈ p, s.WellFormed)
    (hq : ∀ s ∈ q, s.WellFormed) {cs ds : List (List Char)} {c more : List Char} (hm : Bracketed more)
    (h1 : chunkTexts p = cs ++ [c]) (h2 : chunkTexts q = cs ++ (c ++ more) :: ds) : p <+: q := by
  induction cs generalizing p q with
  | nil =>
    obtain ⟨s, indexes, tail, rfl, hi, -, rfl, ht⟩ := chunkTexts_eq_cons_iff.1 h1
    obtain ⟨s', indexes', tail', rfl, hi', -, hc, -⟩ := chunkTexts_eq_cons_iff.1 h2
    obtain rfl := chunkTexts_eq_nil_iff.1 ht
    have hr := readChunk_flatMap_chars (fun r hr => hp r (List.mem_append_left _ hr)) hi
    have hr' := readChunk_flatMap_chars (fun r hr => hq r (List.mem_append_left _ hr)) hi'
    rw [hc, readChunk_brackets hr hm] at hr'
    obtain ⟨back, -, he⟩ := map_eq_ok_iff.1 hr'
    exact ⟨back ++ tail', by rw [List.append_nil, ← List.append_assoc, he]⟩
  | cons d cs ih =>
    obtain ⟨s, indexes, tail, rfl, hi, -, rfl, ht⟩ := chunkTexts_eq_cons_iff.1 h1
    obtain ⟨s', indexes', tail', rfl, hi', -, hc, ht'⟩ := chunkTexts_eq_cons_iff.1 h2
    have hr := readChunk_flatMap_chars (fun r hr => hp r (List.mem_append_left _ hr)) hi
    have hr' := readChunk_flatMap_chars (fun r hr => hq r (List.mem_append_left _ hr)) hi'
    rw [hc, hr] at hr'
    rw [← Except.ok.inj hr']
    refine (List.prefix_append_right_inj _).2 (ih (fun r hr => ?_) (fun r hr => ?_) ht ht')
    · exact hp r (List.mem_append_right _ hr)
    · exact hq r (List.mem_append_right _ hr)

/-! ## Texts that go on -/

theorem isChildKey_iff {child parent separator : String} :
    isChildKey child parent separator = true ↔ ∃ rest, child.toList = parent.toList ++ rest ∧
      (separator.toList ≠ [] ∧ separator.toList <+: rest ∨ ∃ more, rest = '[' :: more) := by
  unfold isChildKey
  cases ha : after? parent.toList child.toList with
  | none =>
    refine ⟨nofun, ?_⟩
    rintro ⟨rest, he, -⟩
    rw [after?_eq_some_iff.2 he] at ha
    cases ha
  | some rest =>
    have he := after?_eq_some_iff.1 ha
    rw [he]
    cases rest <;> simp [List.isPrefixOf_iff_prefix]

theorem toList_render_append {front back : List Segment} (hf : front ≠ [])
    (hw : ∀ s ∈ front, s.WellFormed) (separator : String) :
    (render ⟨front ++ back⟩ separator).toList =
      (render ⟨front⟩ separator).toList ++ back.flatMap (Segment.behind separator.toList) := by
  obtain ⟨s, front, rfl⟩ := List.exists_cons_of_ne_nil hf
  have hs := hw s (List.mem_cons_self ..)
  rw [List.cons_append, toList_render_cons hs, toList_render_cons hs, List.flatMap_append, List.append_assoc]

/-- The text of a path goes on from that of another when its segments do. -/
theorem isChildKey_render_iff {separator : String} {p q : List Segment} (hs : separator ≠ "")
    (ho : '[' ∉ separator.toList) (hp : Writable separator ⟨p⟩) (hq : Writable separator ⟨q⟩)
    (hcut : ∀ c ∈ (chunkTexts p).getLast?, CutsBehind separator.toList c) :
    isChildKey (render ⟨q⟩ separator) (render ⟨p⟩ separator) separator = true ↔
      ∃ s back, q = p ++ s :: back := by
  have hsep : separator.toList ≠ [] := by simpa using hs
  rw [isChildKey_iff]
  constructor
  · rintro ⟨rest, he, hrest⟩
    obtain ⟨cs, c, hc⟩ := (List.eq_nil_or_concat (chunkTexts p)).resolve_left hp.isSplit.ne_nil
    rw [List.concat_eq_append] at hc
    have hcutc : CutsBehind separator.toList c := hcut c (by rw [hc]; simp)
    have hcq : chunkTexts q = cs ++ splitOn separator.toList (c ++ rest) := by
      have hsplit : IsSplit separator.toList (cs ++ [c]) := hc ▸ hp.isSplit
      rw [← splitOn_append hsep hsplit, ← hc, ← toList_render hp.wellFormed, ← he]
      exact (splitOn_eq_iff.2 ⟨hq.isSplit, (toList_render hq.wellFormed separator).symm⟩).symm
    have hpre : p <+: q := by
      rcases hrest with ⟨-, more, rfl⟩ | ⟨more, rfl⟩
      · rw [← List.append_assoc, splitOn_eq_pieces hsep, pieces_append hsep hcutc] at hcq
        exact prefix_of_chunkTexts hp.wellFormed hq.wellFormed bracketed_nil hc (by simpa using hcq)
      · obtain ⟨more', ps, hps⟩ := exists_splitOn_append hsep ho (hcutc.not_occurs hsep) more
        rw [hps] at hcq
        exact prefix_of_chunkTexts hp.wellFormed hq.wellFormed (bracketed_cons _) hc hcq
    obtain ⟨back, rfl⟩ := hpre
    cases back with
    | nil =>
      have hnil : rest = [] := by simpa using he
      subst hnil
      simp [hs] at hrest
    | cons s back => exact ⟨s, back, rfl⟩
  · rintro ⟨s, back, rfl⟩
    refine ⟨_, toList_render_append hp.ne_nil hp.wellFormed separator, ?_⟩
    rw [List.flatMap_cons, Segment.behind]
    cases s with
    | key t => exact .inl ⟨hsep, by simp [Segment.isIndex]⟩
    | index ds => exact .inr ⟨_, rfl⟩

/-! ## Parsed paths -/

/-- The last chunk of a path does not contain the separator, so one that does not overlap itself ends it. -/
theorem Writable.cutsBehind_getLast? {separator : String} {p : KeyPath} (h : p.Writable separator)
    (hs : separator ≠ "") (hb : Borderless separator.toList) :
    ∀ c ∈ (chunkTexts p.segments).getLast?, CutsBehind separator.toList c := by
  intro c hc
  have hsep : separator.toList ≠ [] := by simpa using hs
  exact hb.cutsBehind (((isSplit_iff hsep).1 h.isSplit).2.2 c hc)

/-- With a separator that has no bracket and does not overlap itself, as none of one character does, the text
of a path goes on from that of another exactly when its segments do. -/
theorem isChildKey_iff_prefix :
    (∀ x, Borderless [x]) ∧
    ∀ separator, separator ≠ "" → '[' ∉ separator.toList → Borderless separator.toList →
      ∀ child parent p q, parse parent separator = .ok p → parse child separator = .ok q →
        (isChildKey child parent separator = true ↔
          p.segments <+: q.segments ∧ p.segments ≠ q.segments) := by
  refine ⟨borderless_singleton, ?_⟩
  intro separator hs ho hb child parent p q hp hq
  obtain ⟨hwp, rfl⟩ := parse_eq_ok_iff.1 hp
  obtain ⟨hwq, rfl⟩ := parse_eq_ok_iff.1 hq
  rw [isChildKey_render_iff hs ho hwp hwq (hwp.cutsBehind_getLast? hs hb)]
  constructor
  · rintro ⟨s, back, he⟩
    rw [he]
    exact ⟨List.prefix_append .., by simp⟩
  · rintro ⟨⟨back, he⟩, hne⟩
    cases back with
    | nil => exact absurd (he ▸ (List.append_nil _).symm) hne
    | cons s back => exact ⟨s, back, he.symm⟩

/-- The fields of the first choice are below it; a text that goes on within the brackets is not. -/
theorem isChildKey_field :
    Borderless "->".toList ∧ parse "trip->mode[0]" "->" = .ok ⟨[.key "trip", .key "mode", .index "0"]⟩ ∧
      parse "trip->mode[0][1]" "->" = .ok ⟨[.key "trip", .key "mode", .index "0", .index "1"]⟩ ∧
      parse "trip->mode[01]" "->" = .ok ⟨[.key "trip", .key "mode", .index "01"]⟩ ∧
      isChildKey "trip->mode[0][1]" "trip->mode[0]" "->" = true ∧
      isChildKey "trip->mode[01]" "trip->mode[0]" "->" ≠ true := by
  have hb : Borderless "->".toList := by decide
  have hp : parse "trip->mode[0]" "->" = .ok ⟨[.key "trip", .key "mode", .index "0"]⟩ := rfl
  have hq : parse "trip->mode[0][1]" "->" = .ok ⟨[.key "trip", .key "mode", .index "0", .index "1"]⟩ := rfl
  have hr : parse "trip->mode[01]" "->" = .ok ⟨[.key "trip", .key "mode", .index "01"]⟩ := rfl
  have law := isChildKey_iff_prefix.2 "->" (by decide) (by decide) hb
  refine ⟨hb, hp, hq, hr, (law _ _ _ _ hp hq).2 ⟨by decide, by decide⟩, ?_⟩
  intro h
  exact absurd ((law _ _ _ _ hp hr).1 h).1 (by decide)

/-! ## Plain paths -/

/-- The separator first occurs behind a chunk when it first occurs behind each of its segments. -/
theorem cutsBehind_flatMap_chars {sep : List Char} (hs : sep ≠ []) (ho : '[' ∉ sep) {s : Segment}
    {indexes : List Segment} (hi : ∀ r ∈ indexes, r.isIndex = true)
    (h : ∀ r ∈ s :: indexes, CutsBehind sep r.chars) :
    CutsBehind sep ((s :: indexes).flatMap Segment.chars) := by
  induction indexes generalizing s with
  | nil => simpa using h
  | cons r indexes ih =>
    obtain ⟨hsc, h⟩ := List.forall_mem_cons.1 h
    obtain ⟨hr, hi⟩ := List.forall_mem_cons.1 hi
    obtain ⟨cs, hcs⟩ := Segment.chars_of_isIndex hr
    have hrest := ih hi h
    rw [List.flatMap_cons, hcs, List.cons_append] at hrest
    rw [List.flatMap_cons, List.flatMap_cons, hcs, List.cons_append]
    exact cutsBehind_append ho (hsc.not_occurs hs) hrest

theorem cutsBehind_of_mem_chunkTexts {sep : List Char} (hs : sep ≠ []) (ho : '[' ∉ sep)
    {segments : List Segment} (h : ∀ s ∈ segments, CutsBehind sep s.chars) {c : List Char}
    (hc : c ∈ chunkTexts segments) : CutsBehind sep c := by
  induction ht : chunkTexts segments generalizing segments with
  | nil =>
    rw [ht] at hc
    cases hc
  | cons d ds ih =>
    obtain ⟨s, indexes, tail, rfl, hi, -, rfl, htail⟩ := chunkTexts_eq_cons_iff.1 ht
    rw [ht] at hc
    rcases List.mem_cons.1 hc with rfl | hc
    · exact cutsBehind_flatMap_chars hs ho hi fun r hr => h r (List.mem_append_left _ hr)
    · exact ih (fun r hr => h r (List.mem_append_right _ hr)) (htail ▸ hc) htail

/-- Among plain paths those at or below another are those that begin with its segments. -/
theorem atOrBelow_iff {separator : String} (hs : PlainSeparator separator) {p q : List Segment}
    (hpne : p ≠ []) (hp : ∀ s ∈ p, PlainSegment separator s) (hqne : q ≠ [])
    (hq : ∀ s ∈ q, PlainSegment separator s) :
    (render ⟨q⟩ separator == render ⟨p⟩ separator ||
      isChildKey (render ⟨q⟩ separator) (render ⟨p⟩ separator) separator) = true ↔ p <+: q := by
  have hwp := writable_of_plain hs hpne hp
  have hwq := writable_of_plain hs hqne hq
  have hsep : separator.toList ≠ [] := by simpa using hs.ne_empty
  have hcut : ∀ c ∈ (chunkTexts p).getLast?, CutsBehind separator.toList c := fun c hc =>
    cutsBehind_of_mem_chunkTexts hsep hs.not_open (fun s hm => (hp s hm).cutsBehind hs)
      (List.mem_of_getLast? hc)
  rw [Bool.or_eq_true, beq_iff_eq, isChildKey_render_iff hs.ne_empty hs.not_open hwp hwq hcut]
  constructor
  · rintro (he | ⟨s, back, rfl⟩)
    -- one text is parsed as one path
    · have hpq : parse (render ⟨q⟩ separator) separator = .ok ⟨p⟩ := parse_eq_ok_iff.2 ⟨hwp, he.symm⟩
      rw [parse_eq_ok_iff.2 ⟨hwq, rfl⟩] at hpq
      cases hpq
      exact List.prefix_rfl
    · exact List.prefix_append p _
  · rintro ⟨back, rfl⟩
    cases back with
    | nil => exact .inl (by rw [List.append_nil])
    | cons s back => exact .inr ⟨s, back, rfl⟩

end KeyPath

end TripLocale
