/-
The ways to a message text agree (`message_routes`). Where no list stands at the place of the texts, one step
leads from there to a text only by the key of a child (`Target.text?_step`), so the number of a code as a
position and as a key finds the same text as the code itself.

A request spells the number of a code. The answer depends on the number alone, as long as it has 16 bits; the
error of a larger number quotes the spelling (`not_forall_spelling_answer`).
-/
import Mathlib.Data.List.TakeWhile
import TripLocale.Proofs.Edition.Accessors
import TripLocale.Service.Respond

namespace TripLocale

/-! ## Blank texts -/

namespace Text

/-- A text is trimmed to nothing exactly when it has only blanks. -/
theorem isEmpty_trim_iff {s : String} : (trim s).isEmpty = true ↔ ∀ c ∈ s.toList, isBlank c = true := by
  have hall : (∀ c ∈ s.toList.dropWhile isBlank, isBlank c = true) ↔ ∀ c ∈ s.toList, isBlank c = true := by
    conv_rhs => rw [← List.takeWhile_append_dropWhile (p := isBlank) (l := s.toList)]
    rw [List.forall_mem_append]
    exact (and_iff_right fun c hc => List.mem_takeWhile_imp hc).symm
  rw [← hall, trim, trimBlanks]
  simp [List.dropWhile_eq_nil_iff]

end Text

/-! ## Steps to a text -/

namespace Target

/-- A step by a key that is no position leads to a value. -/
theorem exists_value_of_step {r t : Target} {s : Segment} (hs : s.index? = none) (h : r.step s = .ok t) :
    ∃ v, t = value v := by
  rcases step_eq_ok_iff.1 h with ⟨_, v, -, -, ht⟩ | ⟨_, i, -, hi, -⟩
  · exact ⟨v, ht⟩
  · rw [hs] at hi
    cases hi

/-- From a value that is no list, a step finds a text only where it finds a child. -/
theorem text?_step {v : Value} (h : v.list? = none) (s : Segment) :
    ((value v).step s).toOption.bind text? = (v.bundle?.bind (·.child? s.text)).bind Value.text? := by
  cases v with
  | text t => rfl
  | list items => cases h
  | choices cs =>
    rw [step_of_size? rfl]
    cases hi : s.index?.bind (item? (value (.choices cs))) with
    | none => rfl
    | some t =>
      obtain ⟨i, -, ht⟩ := Option.bind_eq_some_iff.1 hi
      obtain ⟨c, -, rfl⟩ := Option.map_eq_some_iff.1 ht
      rfl
  | bundle es =>
    rw [step_bundle]
    show _ = (Bundle.child? ⟨es⟩ s.text).bind Value.text?
    cases Bundle.child? ⟨es⟩ s.text <;> rfl

end Target

/-- The error of a number with more than 16 bits quotes its spelling. -/
theorem RequestError.message_tooLarge (number : String) :
    (badNumber number .tooLarge).message =
      "Invalid message code '" ++ number ++ "': number too large to fit in target type" := by
  have hfault : "': " ++ Text.NumeralFault.message .tooLarge =
      "': number too large to fit in target type" := by decide +kernel
  show "Invalid message code '" ++ number ++ "': " ++ Text.NumeralFault.message .tooLarge = _
  rw [String.append_assoc, hfault]

/-! ## The place of the texts -/

namespace Bundle

open TripLocale.Text (Spells)

variable {b : Bundle}

/-- A path with one more segment takes one more step. -/
theorem get?_concat {path front : String} {segments : List Segment} {s : Segment}
    (hfront : KeyPath.parse front "." = .ok ⟨segments⟩)
    (hpath : KeyPath.parse path "." = .ok ⟨segments ++ [s]⟩) :
    b.get? path = (b.get? front).bind fun r => (r.step s).toOption := by
  rw [get?_of_parse hfront, get?_of_parse hpath]
  cases hr : b.root.reach segments with
  | error stuck => rw [Target.reach_append, hr]; rfl
  | ok r => rw [Target.reach_concat hr]; rfl

theorem parse_messagesPath :
    KeyPath.parse messagesPath "." = .ok ⟨[.key "tripPlanner", .key "msgcodes"]⟩ := by rfl

/-- Nothing but a value stands at the place of the texts. -/
theorem exists_value_messagesPath {r : Target} (h : b.get? messagesPath = some r) : ∃ v, r = .value v := by
  have hfront : KeyPath.parse "tripPlanner" "." = .ok ⟨[.key "tripPlanner"]⟩ := by rfl
  rw [get?_concat hfront parse_messagesPath] at h
  obtain ⟨t, -, ht⟩ := Option.bind_eq_some_iff.1 h
  exact Target.exists_value_of_step rfl (toOption_eq_some_iff.1 ht)

/-- Where the texts are no list, the text one step behind their place is the text under a key. -/
theorem text?_behind_messagesPath
    (hlist : ∀ items, b.lookup messagesPath KeyPath.defaultSeparator ≠ .ok (.value (.list items)))
    {path : String} {s : Segment}
    (hpath : KeyPath.parse path "." = .ok ⟨[.key "tripPlanner", .key "msgcodes"] ++ [s]⟩) :
    b.text? path = ((b.bundle? messagesPath).bind (·.child? s.text)).bind Value.text? := by
  rw [text?, get?_concat parse_messagesPath hpath, bundle?]
  cases hget : b.get? messagesPath with
  | none => rfl
  | some r =>
    obtain ⟨v, rfl⟩ := exists_value_messagesPath hget
    have hv : v.list? = none := by
      rw [Option.eq_none_iff_forall_ne_some]
      intro items hitems
      cases v with
      | list items => exact hlist items (toOption_eq_some_iff.1 hget)
      | _ => cases hitems
    exact Target.text?_step hv s

/-- The text for a code is found by the number of the code, as a position and as a key. -/
theorem text?_code
    (hlist : ∀ items, b.lookup messagesPath KeyPath.defaultSeparator ≠ .ok (.value (.list items)))
    (c : MessageCode) :
    b.text? (messagesPath ++ "[" ++ toString c.number.toNat ++ "]") = b.messageFor? c ∧
      b.text? (messagesPath ++ "." ++ toString c.number.toNat) = b.messageFor? c := by
  have hplain : ∀ k ∈ ["tripPlanner", "msgcodes"], KeyPath.isPlain k = true := by decide
  have hkey : KeyPath.isPlain c.key = true := Shape.isPlain_codeKey c
  have hpath : ".".intercalate ["tripPlanner", "msgcodes"] = messagesPath := by decide +kernel
  have hposition := KeyPath.parse_dotted_position hplain c.number.toNat
  have hcode : KeyPath.parse (".".intercalate ["tripPlanner", "msgcodes", c.key]) "." =
      .ok ⟨[.key "tripPlanner", .key "msgcodes"] ++ [.key c.key]⟩ :=
    KeyPath.parse_dotted (List.cons_ne_nil _ _) (by simpa [hkey] using hplain)
  have hbehind : ".".intercalate ["tripPlanner", "msgcodes", c.key] = messagesPath ++ "." ++ c.key := by
    rw [← hpath]
    rfl
  rw [hpath, indexedKey] at hposition
  rw [hbehind] at hcode
  constructor
  · rw [text?_behind_messagesPath hlist hposition]
    rfl
  · rw [show toString c.number.toNat = c.key from rfl, text?_behind_messagesPath hlist hcode]
    rfl

theorem messageForNumber?_number (c : MessageCode) : b.messageForNumber? c.number = b.messageFor? c := by
  rw [messageForNumber?, MessageCode.ofNumber?_eq_some_iff.2 rfl, Option.bind_some]

/-- What the planner sent does not count when it is blank. -/
theorem responseMessage?_of_blank {n : UInt16} {sent : Option String}
    (h : ∀ t, sent = some t → ∀ x ∈ t.toList, Text.isBlank x = true) :
    b.responseMessage? n sent = b.messageForNumber? n := by
  cases sent with
  | none => rfl
  | some t => rw [responseMessage?, if_pos (Text.isEmpty_trim_iff.2 (h t rfl))]

/-! ## Requests for a code -/

variable {number : String}

theorem answerCode_eq_ok_iff {j : Json} :
    b.answerCode number = .ok j ↔
      ∃ n, Text.word16 number.toList = .ok n ∧ ∃ m, b.messageForNumber? n = some m ∧ j = .string m := by
  rw [answerCode]
  cases hn : Text.word16 number.toList with
  | error fault => exact ⟨nofun, fun ⟨_, h, _⟩ => nomatch h⟩
  | ok n =>
    simp only [messageForNumber?]
    cases hc : MessageCode.ofNumber? n with
    | none => simp [hc]
    | some c => cases hm : b.messageFor? c <;> simp [hc, hm, eq_comm]

theorem respond_code (separator : String) :
    b.respond separator (.code number) = ⟨number, b.answerCode number⟩ := rfl

/-- What is answered to a number of 16 bits does not show how it was spelled. -/
theorem answerCode_of_spells {n : Nat} (hn : n ≤ 65535) (h : Spells number.toList n) :
    b.answerCode number = b.answerCode (toString n) := by
  have hf : Text.fits 16 n = true := decide_eq_true (Nat.lt_succ_of_le hn)
  rw [answerCode, answerCode, Text.word16_of_spells h, Text.word16_of_spells (Text.spells_toString n), if_pos hf]

theorem answerCode_of_large {n : Nat} (hn : 65535 < n) (h : Spells number.toList n) :
    b.answerCode number = .error (.badNumber number .tooLarge) := by
  have hf : ¬ Text.fits 16 n = true := fun hf => absurd (of_decide_eq_true hf) (Nat.not_lt.2 hn)
  rw [answerCode, Text.word16_of_spells h, if_neg hf]

theorem respond_code_of_large {n : Nat} (hn : 65535 < n) (h : Spells number.toList n) (separator : String) :
    (b.respond separator (.code number)).toJson = .object [("path", .string number),
      ("error", .string ("Invalid message code '" ++ number ++
        "': number too large to fit in target type"))] := by
  rw [respond_code, answerCode_of_large hn h, ← RequestError.message_tooLarge]
  rfl

/-- All ways to the text for a code agree. Where no list stands at the place of the texts, it is found by the
number of the code there, as a position and as a key, and it is shown in place of a blank text of the planner.
A request has a value exactly when it spells the number of a code that has a text, and the value is this text.
For a number of 16 bits the answer is the same for every spelling and every separator, apart from the path it
repeats. For a larger number it is an error, which quotes the spelling. -/
theorem message_routes (b : Bundle) :
    ((∀ items, b.lookup messagesPath KeyPath.defaultSeparator ≠ .ok (.value (.list items))) →
      ∀ c : MessageCode,
        b.text? (messagesPath ++ "[" ++ toString c.number.toNat ++ "]") = b.messageForNumber? c.number ∧
        b.text? (messagesPath ++ "." ++ toString c.number.toNat) = b.messageForNumber? c.number ∧
        ∀ sent, (∀ t, sent = some t → ∀ x ∈ t.toList, Text.isBlank x = true) →
          b.responseMessage? c.number sent = b.messageForNumber? c.number) ∧
    (∀ separator number j, (b.respond separator (.code number)).outcome = .ok j ↔
      ∃ n : UInt16, Spells number.toList n.toNat ∧ ∃ m, b.messageForNumber? n = some m ∧ j = .string m) ∧
    (∀ n ≤ 65535, ∃ member, ∀ separator number, Spells number.toList n →
      (b.respond separator (.code number)).toJson = .object [("path", .string number), member]) ∧
    ∀ n > 65535, ∀ separator number, Spells number.toList n →
      (b.respond separator (.code number)).toJson = .object [("path", .string number),
        ("error", .string ("Invalid message code '" ++ number ++
          "': number too large to fit in target type"))] := by
  refine ⟨fun hlist c => ?_, fun separator number j => ?_, fun n hn => ?_, fun n hn separator number h =>
    respond_code_of_large hn h separator⟩
  · obtain ⟨hposition, hkey⟩ := text?_code hlist c
    rw [hposition, hkey, messageForNumber?_number]
    exact ⟨rfl, rfl, fun sent h => (responseMessage?_of_blank h).trans (messageForNumber?_number c)⟩
  · rw [respond_code, answerCode_eq_ok_iff]
    simp only [Text.word16_eq_ok_iff]
  · cases ha : b.answerCode (toString n) with
    | ok j =>
      refine ⟨("value", j), fun separator number h => ?_⟩
      rw [respond_code, answerCode_of_spells hn h, ha, Response.toJson]
    | error e =>
      refine ⟨("error", .string e.message), fun separator number h => ?_⟩
      rw [respond_code, answerCode_of_spells hn h, ha, Response.toJson]

/-- A message text found by its code, shown in place of blanks, and answered to a number with a sign and zeros as to
the plain one; and the answer to a number that is too large. -/
theorem message_routes_origin :
    let b : Bundle := ⟨[("tripPlanner", .bundle [("msgcodes", .bundle [("440", .text "Brak")])])]⟩
    (∀ items, b.lookup messagesPath KeyPath.defaultSeparator ≠ .ok (.value (.list items))) ∧
      b.text? "tripPlanner.msgcodes[440]" = some "Brak" ∧ b.text? "tripPlanner.msgcodes.440" = some "Brak" ∧
      b.responseMessage? 440 (some " ") = some "Brak" ∧
      (b.respond "/" (.code "+00440")).outcome = .ok (.string "Brak") ∧
      (∃ member, (b.respond "." (.code "440")).toJson = .object [("path", .string "440"), member] ∧
        (b.respond "/" (.code "+00440")).toJson = .object [("path", .string "+00440"), member]) ∧
      (b.respond "." (.code "70000")).toJson = .object [("path", .string "70000"), ("error",
        .string "Invalid message code '70000': number too large to fit in target type")] := by
  intro b
  have hplace : b.lookup messagesPath KeyPath.defaultSeparator =
      .ok (.value (.bundle [("440", .text "Brak")])) := by decide +kernel
  have hlist : ∀ items, b.lookup messagesPath KeyPath.defaultSeparator ≠ .ok (.value (.list items)) := by
    intro items h
    cases hplace.symm.trans h
  have hmessage : b.messageForNumber? 440 = some "Brak" := by decide +kernel
  have hspelled : Spells "+00440".toList 440 :=
    ⟨"00440".toList, .inr rfl, by decide, List.all_eq_true.1 (by decide), by decide⟩
  obtain ⟨htexts, hvalue, hanswer, hlarge⟩ := message_routes b
  obtain ⟨hposition, hkey, hshown⟩ := htexts hlist .geocodeFromNotFound
  obtain ⟨member, hmember⟩ := hanswer 440 (by decide)
  refine ⟨hlist, hposition.trans hmessage, hkey.trans hmessage, ?_,
    (hvalue "/" "+00440" _).2 ⟨440, hspelled, "Brak", hmessage, rfl⟩,
    ⟨member, hmember "." _ (Text.spells_toString 440), hmember "/" _ hspelled⟩, ?_⟩
  · refine (hshown (some " ") fun t ht => ?_).trans hmessage
    cases ht
    exact List.all_eq_true.1 (by decide)
  · have hquoted : "Invalid message code '" ++ "70000" ++ "': number too large to fit in target type" =
        "Invalid message code '70000': number too large to fit in target type" := by decide +kernel
    exact hquoted ▸ hlarge 70000 (by decide) "." "70000" (Text.spells_toString 70000)

/-- Not every number has one answer to all its spellings: the error for `70000` and for `+70000` quotes them. -/
theorem not_forall_spelling_answer :
    ¬ ∀ (b : Bundle) (n : Nat), ∃ member, ∀ separator number, Spells number.toList n →
      (b.respond separator (.code number)).toJson = .object [("path", .string number), member] := by
  intro h
  obtain ⟨member, hmember⟩ := h planner 70000
  have hquoted : ∀ number, Spells number.toList 70000 → ("error", Json.Tree.string ("Invalid message code '" ++
      number ++ "': number too large to fit in target type")) = member := by
    intro number hs
    have hanswer := (respond_code_of_large (by decide) hs ".").symm.trans (hmember "." number hs)
    exact (List.cons.inj (List.cons.inj (Json.Tree.object.inj hanswer)).2).1
  have hdigits : ∀ d ∈ "70000".toList, d.isDigit = true := List.all_eq_true.1 (by decide)
  have hplain := hquoted "70000" ⟨"70000".toList, .inl rfl, by decide, hdigits, by decide⟩
  have hsigned := hquoted "+70000" ⟨"70000".toList, .inr rfl, by decide, hdigits, by decide⟩
  have htexts := Json.Tree.string.inj (congrArg Prod.snd (hplain.trans hsigned.symm))
  revert htexts
  decide +kernel

end Bundle

end TripLocale
