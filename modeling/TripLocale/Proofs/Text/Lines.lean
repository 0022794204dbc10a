/-
The lines of a byte stream: `lines bytes = ls` exactly when `ls` are the stretches of `bytes` between line
ends, with what follows the last line end if there is anything (`isLines_iff`).

A line feed is a byte of its own in UTF-8, and so is a carriage return, so every line of a text is a text
(`isSome_decode?_of_mem_lines`). What stands behind a line feed has its own lines (`lines_append`).
-/
import TripLocale.Text.Utf8

namespace TripLocale.Text

/-! ## Lines -/

/-- The lines of a stream, where a line ends at a line feed or at a carriage return with a line feed, or
else at the end of the stream. -/
inductive IsLines : Bytes → List Bytes → Prop
  | nil : IsLines [] []
  | unfinished {line : Bytes} : line ≠ [] → lineFeed ∉ line → IsLines line [line]
  | feed {line rest : Bytes} {ls : List Bytes} :
      lineFeed ∉ line → line.getLast? ≠ some 13 → IsLines rest ls →
        IsLines (line ++ lineFeed :: rest) (line :: ls)
  | returnFeed {line rest : Bytes} {ls : List Bytes} :
      lineFeed ∉ line → IsLines rest ls → IsLines (line ++ 13 :: lineFeed :: rest) (line :: ls)

theorem withoutReturn_of_getLast? {line : Bytes} (h : line.getLast? ≠ some 13) :
    withoutReturn line = line := if_neg h

theorem withoutReturn_append_return (line : Bytes) : withoutReturn (line ++ [13]) = line := by
  rw [withoutReturn, if_pos (by simp), List.dropLast_concat]

theorem lines_of_not_mem {line : Bytes} (hne : line ≠ []) (h : lineFeed ∉ line) :
    lines line = [line] := by
  simp [lines, List.splitOn_eq_singleton h, hne]

/-- What stands before a line feed and what stands behind it have their lines apart. -/
theorem lines_append_feed (front back : Bytes) :
    lines (front ++ lineFeed :: back) =
      (front.splitOn lineFeed).map withoutReturn ++ lines back := by
  have hne := List.splitOn_ne_nil lineFeed back
  have hlast : (front.splitOn lineFeed ++ back.splitOn lineFeed).getLast? =
      (back.splitOn lineFeed).getLast? := by
    rw [List.getLast?_append, Option.or_of_isSome (by simp)]
  rw [lines, lines, List.splitOn_append_cons_self, List.dropLast_append_of_ne_nil hne, hlast,
    List.map_append, List.append_assoc]

theorem lines_line_feed {line : Bytes} (h : lineFeed ∉ line) (rest : Bytes) :
    lines (line ++ lineFeed :: rest) = withoutReturn line :: lines rest := by
  rw [lines_append_feed, List.splitOn_eq_singleton h]
  rfl

/-- A stream that ends in a line feed has no unfinished line. -/
theorem lines_append {front : Bytes} (h : front.getLast? = some lineFeed) (back : Bytes) :
    lines (front ++ back) = lines front ++ lines back := by
  obtain ⟨front, rfl⟩ := List.getLast?_eq_some_iff.1 h
  rw [List.append_assoc, List.singleton_append, lines_append_feed, lines_append_feed]
  simp [lines]

theorem IsLines.eq {bytes : Bytes} {ls : List Bytes} (h : IsLines bytes ls) : lines bytes = ls := by
  induction h with
  | nil => rfl
  | unfinished hne hline => exact lines_of_not_mem hne hline
  | feed hline hlast _ ih => rw [lines_line_feed hline, withoutReturn_of_getLast? hlast, ih]
  | @returnFeed line rest ls hline _ ih =>
    have hreturn : lineFeed ∉ line ++ [13] := by
      rw [List.mem_append, not_or]
      exact ⟨hline, by decide⟩
    have hbytes : line ++ 13 :: lineFeed :: rest = line ++ [13] ++ lineFeed :: rest := by simp
    rw [hbytes, lines_line_feed hreturn, withoutReturn_append_return, ih]

theorem isLines_lines (bytes : Bytes) : IsLines bytes (lines bytes) := by
  induction hn : bytes.length using Nat.strongRecOn generalizing bytes with
  | ind n ih =>
    by_cases hfeed : lineFeed ∈ bytes
    · obtain ⟨line, rest, rfl, hline⟩ := List.eq_append_cons_of_mem hfeed
      have hrest : IsLines rest (lines rest) := ih rest.length (by simp at hn; omega) rest rfl
      rw [lines_line_feed hline]
      by_cases hlast : line.getLast? = some 13
      · obtain ⟨front, rfl⟩ := List.getLast?_eq_some_iff.1 hlast
        rw [withoutReturn_append_return, List.append_assoc]
        exact .returnFeed (fun h => hline (List.mem_append_left _ h)) hrest
      · rw [withoutReturn_of_getLast? hlast]
        exact .feed hline hlast hrest
    · by_cases hne : bytes = []
      · subst hne
        exact .nil
      · rw [lines_of_not_mem hne hfeed]
        exact .unfinished hne hfeed

/-- The lines that are read are the lines of the stream. -/
theorem isLines_iff {bytes : Bytes} {ls : List Bytes} : IsLines bytes ls ↔ lines bytes = ls :=
  ⟨IsLines.eq, fun h => h ▸ isLines_lines bytes⟩

/-! ## Lines of a text -/

/-- The bytes decode to the text that is encoded as them. -/
theorem decode?_eq_some_iff {bytes : Bytes} {text : String} :
    decode? bytes = some text ↔ text.toList.flatMap String.utf8EncodeChar = bytes := by
  have hencode : text.toByteArray.data.toList = text.toList.flatMap String.utf8EncodeChar := by
    rw [← String.utf8Encode_toList, List.utf8Encode]
    simp
  rw [← hencode, decode?, String.fromUTF8?]
  constructor
  · intro h
    split at h
    · obtain rfl := Option.some.inj h
      rfl
    · cases h
  · rintro rfl
    exact dif_pos text.isValidUTF8

theorem isSome_decode?_iff {bytes : Bytes} :
    (decode? bytes).isSome = true ↔ ∃ cs : List Char, cs.flatMap String.utf8EncodeChar = bytes := by
  rw [Option.isSome_iff_exists]
  simp only [decode?_eq_some_iff]
  constructor
  · rintro ⟨text, h⟩
    exact ⟨text.toList, h⟩
  · rintro ⟨cs, h⟩
    exact ⟨String.ofList cs, by rw [String.toList_ofList, h]⟩

/-- The bytes of a character that takes more than one are all above 127. -/
theorem utf8EncodeChar_of_mem {c : Char} {x : UInt8} (hx : x.toNat < 128)
    (h : x ∈ String.utf8EncodeChar c) : String.utf8EncodeChar c = [x] := by
  have large : ∀ {m k : Nat}, 128 ≤ k → m + k < 256 → x = UInt8.ofNat (m + k) → False := by
    rintro m k hk hm rfl
    rw [UInt8.toNat_ofNat', Nat.mod_eq_of_lt hm] at hx
    omega
  unfold String.utf8EncodeChar at h ⊢
  dsimp only at h ⊢
  split at h
  · next hc => rw [if_pos hc, List.mem_singleton.1 h]
  · exfalso
    split at h
    · simp only [List.mem_cons, List.not_mem_nil, or_false] at h
      rcases h with h | h
      all_goals exact large (by decide) (by omega) h
    · split at h
      · simp only [List.mem_cons, List.not_mem_nil, or_false] at h
        rcases h with h | h | h
        all_goals exact large (by decide) (by omega) h
      · simp only [List.mem_cons, List.not_mem_nil, or_false] at h
        rcases h with h | h | h | h
        all_goals exact large (by decide) (by omega) h

/-- A text can be cut at a byte below 128. -/
theorem isSome_decode?_cut {front back : Bytes} {x : UInt8} (hx : x.toNat < 128)
    (h : (decode? (front ++ x :: back)).isSome = true) :
    (decode? front).isSome = true ∧ (decode? back).isSome = true := by
  rw [isSome_decode?_iff] at h
  simp only [isSome_decode?_iff]
  obtain ⟨cs, hcs⟩ := h
  induction cs generalizing front with
  | nil => simp at hcs
  | cons c cs ih =>
    rw [List.flatMap_cons, List.append_eq_append_iff] at hcs
    rcases hcs with ⟨front', rfl, hcs⟩ | ⟨tail, hc, hcs⟩
    -- the cut lies behind the first character
    · obtain ⟨⟨ds, rfl⟩, hback⟩ := ih hcs
      exact ⟨⟨c :: ds, rfl⟩, hback⟩
    · cases tail with
      | nil =>
        have hcut : cs.flatMap String.utf8EncodeChar = [] ++ x :: back := hcs.symm
        obtain ⟨-, hback⟩ := ih hcut
        exact ⟨⟨[c], by simpa using hc⟩, hback⟩
      | cons y tail =>
        obtain ⟨rfl, rfl⟩ := List.cons.inj hcs
        have hchar := utf8EncodeChar_of_mem hx (c := c) (by rw [hc]; simp)
        rw [hchar] at hc
        cases front with
        | nil =>
          obtain ⟨-, rfl⟩ := List.cons.inj hc
          exact ⟨⟨[], rfl⟩, cs, rfl⟩
        | cons z front => simp at hc

/-- The lines of a text are texts. -/
theorem isSome_decode?_of_mem_lines {bytes : Bytes} (h : (decode? bytes).isSome = true) :
    ∀ line ∈ lines bytes, (decode? line).isSome = true := by
  have hlines := isLines_lines bytes
  generalize lines bytes = ls at hlines ⊢
  induction hlines with
  | nil => nofun
  | unfinished => exact List.forall_mem_singleton.2 h
  | feed _ _ _ ih =>
    obtain ⟨hline, hrest⟩ := isSome_decode?_cut (by decide) h
    exact List.forall_mem_cons.2 ⟨hline, ih hrest⟩
  | returnFeed _ _ ih =>
    obtain ⟨hline, hfeed⟩ := isSome_decode?_cut (by decide) h
    obtain ⟨-, hrest⟩ := @isSome_decode?_cut [] _ _ (by decide) hfeed
    exact List.forall_mem_cons.2 ⟨hline, ih hrest⟩

end TripLocale.Text
