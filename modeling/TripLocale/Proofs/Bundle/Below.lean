/-
The part of a flat list at and below a full key: it lists the leaves whose segments begin with those of the
key (`KeysPlain.flattenUnder_flatKey`). With unique keys the leaves behind a segment are those of the one part
there (`Target.Part.filter_leaves`). So no leaf lies below another, and the full key of a text lists that text
alone (`KeysPlain.flattenUnder_of_mem_flatten`).
-/
import TripLocale.Proofs.Bundle.Leaves
import TripLocale.Proofs.KeyPath.Below

namespace TripLocale

/-! ## Leaves behind segments -/

/-- The leaves behind a segment are those of the part that the segment names. -/
theorem filter_graft {parts : List (Segment × Leaves)} (hs : (parts.map (·.1)).Nodup) {s : Segment}
    {ls : Leaves} (h : (s, ls) ∈ parts) :
    (graft parts).filter (fun l => [s].isPrefixOf l.1) = ls.map fun l => (s :: l.1, l.2) := by
  induction parts with
  | nil => cases h
  | cons p parts ih =>
    rw [List.map_cons, List.nodup_cons] at hs
    have hcons : graft (p :: parts) = (p.2.map fun l => (p.1 :: l.1, l.2)) ++ graft parts := List.flatMap_cons
    rw [hcons, List.filter_append]
    by_cases hp : p.1 = s
    -- the part is the first one, and the segments of all others differ from it
    · subst hp
      have hls : (p.1, ls) = p := by
        rcases List.mem_cons.1 h with h | h
        · exact h
        · exact absurd (List.mem_map_of_mem h) hs.1
      have hhead : (p.2.map fun l => (p.1 :: l.1, l.2)).filter (fun l => [p.1].isPrefixOf l.1) =
          p.2.map fun l => (p.1 :: l.1, l.2) := by
        apply List.filter_eq_self.2
        rw [List.forall_mem_map]
        simp
      have hrest : (graft parts).filter (fun l => [p.1].isPrefixOf l.1) = [] := by
        rw [List.filter_eq_nil_iff]
        intro l hl hpre
        obtain ⟨q, hq, m, -, rfl⟩ := mem_graft_iff.1 hl
        have he : p.1 = q.1 := by simpa using hpre
        exact hs.1 (he ▸ List.mem_map_of_mem hq)
      rw [hhead, hrest, List.append_nil, ← hls]
    · have hhead : (p.2.map fun l => (p.1 :: l.1, l.2)).filter (fun l => [s].isPrefixOf l.1) = [] := by
        rw [List.filter_eq_nil_iff, List.forall_mem_map]
        intro l _ hpre
        exact hp (by simpa using hpre : s = p.1).symm
      have hne : (s, ls) ≠ p := by
        rintro rfl
        exact hp rfl
      rw [hhead, List.nil_append]
      exact ih hs.2 ((List.mem_cons.1 h).resolve_left hne)

/-- Where the leaves behind `front` are those of a place, the ones behind more segments are behind the rest
there. -/
theorem filter_append_isPrefixOf {ls us : Leaves} (front back : List Segment)
    (h : ls.filter (fun l => front.isPrefixOf l.1) = us.map fun l => (front ++ l.1, l.2)) :
    ls.filter (fun l => (front ++ back).isPrefixOf l.1) =
      (us.filter fun l => back.isPrefixOf l.1).map fun l => (front ++ l.1, l.2) := by
  have hboth : ∀ l : List Segment × String, (front ++ back).isPrefixOf l.1 =
      ((front ++ back).isPrefixOf l.1 && front.isPrefixOf l.1) := by
    intro l
    rw [Bool.eq_iff_iff, Bool.and_eq_true, List.isPrefixOf_iff_prefix, List.isPrefixOf_iff_prefix]
    exact (and_iff_left_of_imp (List.prefix_append front back).trans).symm
  calc ls.filter (fun l => (front ++ back).isPrefixOf l.1)
      = (ls.filter fun l => front.isPrefixOf l.1).filter (fun l => (front ++ back).isPrefixOf l.1) := by
        rw [List.filter_filter]
        exact List.filter_congr fun l _ => hboth l
    _ = (us.filter fun l => back.isPrefixOf l.1).map fun l => (front ++ l.1, l.2) := by
        rw [h, List.filter_map]
        congr 1
        apply List.filter_congr
        intro l _
        rw [Bool.eq_iff_iff, Function.comp_apply, List.isPrefixOf_iff_prefix, List.isPrefixOf_iff_prefix]
        exact List.prefix_append_right_inj front

namespace Target

variable {r u : Target} {s : Segment}

theorem nodup_parts (hu : r.Everywhere fun v => (v.entries.map (·.1)).Nodup) : (r.parts.map (·.1)).Nodup := by
  match r, hu with
  | value (.bundle es), hu => exact Value.nodup_entryParts hu.here
  | value (.list items), _ => exact nodup_itemParts textLeaves items
  | value (.choices cs), _ => exact nodup_itemParts Choice.leaves cs
  | choice c, _ =>
    show [Segment.position 0, Segment.position 1].Nodup
    decide
  | value (.text _), _ | text _, _ => exact List.nodup_nil

theorem Part.filter_leaves (hu : r.Everywhere fun v => (v.entries.map (·.1)).Nodup) (h : Part r s u) :
    r.leaves.filter (fun l => [s].isPrefixOf l.1) = u.leaves.map fun l => (s :: l.1, l.2) := by
  rw [leaves_eq_graft h.text?_eq_none]
  exact filter_graft (nodup_parts hu) (mem_parts_iff.2 ⟨s, u, h, rfl⟩)

/-- No other leaf lies at or below a leaf. -/
theorem filter_leaves_of_mem (hu : r.Everywhere fun v => (v.entries.map (·.1)).Nodup)
    {segments : List Segment} {t : String} (h : (segments, t) ∈ r.leaves) :
    r.leaves.filter (fun l => segments.isPrefixOf l.1) = [(segments, t)] := by
  induction segments generalizing r with
  | nil =>
    rw [leaves_of_text? (nil_mem_leaves_iff.1 h)]
    rfl
  | cons s segments ih =>
    obtain ⟨u, hpart, hm⟩ := cons_mem_leaves_iff.1 h
    have hrest := filter_append_isPrefixOf [s] segments (hpart.filter_leaves hu)
    rw [ih (hpart.everywhere hu) hm] at hrest
    exact hrest

end Target

namespace Bundle

variable {separator : String} {b : Bundle}

/-! ## Flat lists below full keys -/

/-- The texts at and below a full key are the leaves whose segments begin with those of the key. -/
theorem KeysPlain.flattenUnder_flatKey (hs : KeyPath.PlainSeparator separator) (hp : b.KeysPlain separator)
    {segments : List Segment} (hne : segments ≠ [])
    (hseg : ∀ s ∈ segments, KeyPath.PlainSegment separator s) :
    b.flattenUnder (flatKey separator segments) separator =
      underKeys separator [] (b.root.leaves.filter fun l => segments.isPrefixOf l.1) := by
  rw [flattenUnder, hp.flatten_eq_underKeys, underKeys, underKeys, List.filter_map]
  refine congrArg _ (List.filter_congr fun l hl => ?_)
  rw [Bool.eq_iff_iff, List.isPrefixOf_iff_prefix]
  exact KeyPath.atOrBelow_iff hs hne hseg (root_leaves_ne_nil hl)
    (Target.plain_of_mem_leaves (r := b.root) hp hl)

/-- A full key that flattening gives to a text lists this text alone. -/
theorem KeysPlain.flattenUnder_of_mem_flatten (hs : KeyPath.PlainSeparator separator)
    (hp : b.KeysPlain separator) (hu : b.KeysUnique) {e : String × String}
    (h : e ∈ b.flatten separator) : b.flattenUnder e.1 separator = [e] := by
  obtain ⟨segments, hm, he⟩ := hp.mem_flatten_iff.1 (show (e.1, e.2) ∈ b.flatten separator from h)
  rw [he, hp.flattenUnder_flatKey hs (root_leaves_ne_nil hm)
    (Target.plain_of_mem_leaves (r := b.root) hp hm), Target.filter_leaves_of_mem hu.root hm]
  show [(flatKey separator segments, e.2)] = [e]
  rw [← he]

end Bundle

end TripLocale
