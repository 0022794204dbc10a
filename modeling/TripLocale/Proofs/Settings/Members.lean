/-
What the members of a JSON object make of the settings (`parse?_object`).

The reader takes one member after the other and keeps what it has met of each setting. Members with other
names change nothing, and a member of one setting leaves the other as it is. So what becomes of a setting
depends on the values under its name alone, wherever they stand (`foldlM_add?_eq_some_iff`). The names must all
be texts, though: one that holds half of a surrogate pair is refused, whatever its value
(`parse?_object_unnamed`).
-/
import TripLocale.Proofs.Json.Reader
import TripLocale.Proofs.Settings.Nearest

namespace TripLocale.Settings

open TripLocale.Json

/-- The values that stand under a name, in the order written. -/
def valuesOf (name : String) (members : List (Option String × Draft)) : List Draft :=
  members.filterMap fun m => if m.1 = some name then some m.2 else none

/-- The members give a setting its value: once and as a string, or not at all where the value is the default. -/
structure Gives (members : List (Option String × Draft)) (name default value : String) : Prop where
  once : (valuesOf name members).length ≤ 1
  said : ∀ j ∈ valuesOf name members, j = .string (some value)
  omitted : valuesOf name members = [] → value = default

/-- The members repeat a setting, or give it something that is no string. -/
def Spoils (members : List (Option String × Draft)) (name : String) : Prop :=
  2 ≤ (valuesOf name members).length ∨ ∃ j ∈ valuesOf name members, ∀ value, j ≠ .string (some value)

variable {name : String} {ms : List (Option String × Draft)} {j : Draft}

theorem valuesOf_cons_self : valuesOf name ((some name, j) :: ms) = j :: valuesOf name ms :=
  List.filterMap_cons_some (if_pos rfl)

theorem valuesOf_cons_of_ne {m : Option String × Draft} (h : m.1 ≠ some name) :
    valuesOf name (m :: ms) = valuesOf name ms :=
  List.filterMap_cons_none (if_neg h)

/-! ## One setting -/

/-- What is known of a setting before and after some values. -/
inductive Told : Option String → List Draft → Option String → Prop where
  | nothing {known : Option String} : Told known [] known
  | once {value : String} : Told none [.string (some value)] (some value)

theorem told_cons_iff {known after : Option String} {js : List Draft} :
    Told known (j :: js) after ↔ known = none ∧ ∃ value, j = .string (some value) ∧ Told (some value) js after := by
  constructor
  · rintro ⟨⟩
    exact ⟨rfl, _, rfl, .nothing⟩
  · rintro ⟨rfl, value, rfl, ⟨⟩⟩
    exact .once

theorem told_nil_iff {known after : Option String} : Told known [] after ↔ known = after := by
  constructor
  · rintro ⟨⟩
    rfl
  · rintro rfl
    exact .nothing

theorem gives_iff {default value : String} :
    Gives ms name default value ↔ ∃ known, Told none (valuesOf name ms) known ∧ known.getD default = value := by
  constructor
  · rintro ⟨honce, hsaid, homitted⟩
    match hv : valuesOf name ms, honce with
    | [], _ => exact ⟨none, .nothing, (homitted hv).symm⟩
    | [j], _ =>
      obtain rfl := hsaid j (by simp [hv])
      exact ⟨some value, .once, rfl⟩
  · rintro ⟨known, htold, rfl⟩
    generalize hv : valuesOf name ms = js at htold
    cases htold with
    | nothing => exact ⟨by simp [hv], by simp [hv], fun _ => rfl⟩
    | once => exact ⟨by simp [hv], by simp [hv], by simp [hv]⟩

theorem exists_told_iff {js : List Draft} :
    (∃ known, Told none js known) ↔ js.length ≤ 1 ∧ ∀ j ∈ js, ∃ value, j = .string (some value) := by
  constructor
  · rintro ⟨known, htold⟩
    cases htold with
    | nothing => simp
    | once => simp
  · rintro ⟨hlength, hstring⟩
    match js, hlength with
    | [], _ => exact ⟨none, .nothing⟩
    | [j], _ =>
      obtain ⟨value, rfl⟩ := hstring j (.head _)
      exact ⟨some value, .once⟩

/-- A setting is told something unless it is spoiled. -/
theorem spoils_iff : Spoils ms name ↔ ¬ ∃ known, Told none (valuesOf name ms) known := by
  rw [exists_told_iff, Classical.not_and_iff_not_or_not, Nat.not_le]
  simp [Spoils, Nat.succ_le_iff]

/-! ## All members -/

namespace Found

variable {p q : Found}

theorem add?_separator_eq_some_iff : p.add? (some "keySeparator", j) = some q ↔
    p.keySeparator = none ∧ ∃ value, j = .string (some value) ∧ q = ⟨some value, p.language⟩ := by
  obtain ⟨known, language⟩ := p
  cases known with
  | some value => simp [add?]
  | none =>
    rcases j with _ | _ | _ | (_ | value) | _ | _ <;> simp [add?, eq_comm]

theorem add?_language_eq_some_iff : p.add? (some "language", j) = some q ↔
    p.language = none ∧ ∃ value, j = .string (some value) ∧ q = ⟨p.keySeparator, some value⟩ := by
  obtain ⟨separator, known⟩ := p
  cases known with
  | some value => simp [add?]
  | none =>
    rcases j with _ | _ | _ | (_ | value) | _ | _ <;> simp [add?, eq_comm]

theorem add?_other {name : String} (hs : name ≠ "keySeparator") (hl : name ≠ "language") :
    p.add? (some name, j) = some p := by
  simp [add?]

/-- What the members make known of each setting is what the values under its name tell. -/
theorem foldlM_add?_eq_some_iff :
    ms.foldlM add? p = some q ↔ (∀ m ∈ ms, m.1 ≠ none) ∧
      Told p.keySeparator (valuesOf "keySeparator" ms) q.keySeparator ∧
        Told p.language (valuesOf "language" ms) q.language := by
  induction ms generalizing p with
  | nil =>
    obtain ⟨separator, language⟩ := p
    obtain ⟨separator', language'⟩ := q
    simp [valuesOf, told_nil_iff]
  | cons m ms ih =>
    obtain ⟨_ | name, j⟩ := m
    · simp [add?]
    rw [List.foldlM_cons, Option.bind_eq_bind, Option.bind_eq_some_iff, List.forall_mem_cons,
      and_iff_right (Option.some_ne_none name)]
    by_cases hs : name = "keySeparator"
    · subst hs
      rw [valuesOf_cons_self, valuesOf_cons_of_ne (by simp), told_cons_iff]
      simp only [add?_separator_eq_some_iff, ih]
      constructor
      · rintro ⟨_, ⟨hp, value, rfl, rfl⟩, hn, hk, hl⟩
        exact ⟨hn, ⟨hp, value, rfl, hk⟩, hl⟩
      · rintro ⟨hn, ⟨hp, value, rfl, hk⟩, hl⟩
        exact ⟨_, ⟨hp, value, rfl, rfl⟩, hn, hk, hl⟩
    by_cases hl : name = "language"
    · subst hl
      rw [valuesOf_cons_self, valuesOf_cons_of_ne (by simp), told_cons_iff]
      simp only [add?_language_eq_some_iff, ih]
      constructor
      · rintro ⟨_, ⟨hp, value, rfl, rfl⟩, hn, hk, hl⟩
        exact ⟨hn, hk, hp, value, rfl, hl⟩
      · rintro ⟨hn, hk, hp, value, rfl, hl⟩
        exact ⟨_, ⟨hp, value, rfl, rfl⟩, hn, hk, hl⟩
    · rw [valuesOf_cons_of_ne (by simpa using hs), valuesOf_cons_of_ne (by simpa using hl), add?_other hs hl]
      simp [ih]

theorem exists_foldlM_add?_iff : (∃ q, ms.foldlM add? empty = some q) ↔ (∀ m ∈ ms, m.1 ≠ none) ∧
    (∃ known, Told none (valuesOf "keySeparator" ms) known) ∧
      ∃ known, Told none (valuesOf "language" ms) known := by
  simp only [foldlM_add?_eq_some_iff]
  constructor
  · rintro ⟨q, hn, hs, hl⟩
    exact ⟨hn, ⟨_, hs⟩, _, hl⟩
  · rintro ⟨hn, ⟨separator, hs⟩, language, hl⟩
    exact ⟨⟨separator, language⟩, hn, hs, hl⟩

/-- Members are refused for a name that says nothing and for a setting that is spoiled, and for nothing else. -/
theorem foldlM_add?_eq_none_iff : ms.foldlM add? empty = none ↔
    (∃ m ∈ ms, m.1 = none) ∨ Spoils ms "keySeparator" ∨ Spoils ms "language" := by
  rw [← Option.not_isSome_iff_eq_none, Option.isSome_iff_exists, exists_foldlM_add?_iff, spoils_iff, spoils_iff,
    not_and_or, not_and_or]
  simp

end Found

/-! ## Texts -/

theorem parse?_of_writes {text : String} (h : Draft.Writes text (.object ms)) :
    parse? text = (ms.foldlM Found.add? .empty).map Found.complete := by
  rw [parse?, Draft.read?_of_writes h]
  rfl

theorem parse?_eq_some_iff {text : String} (h : Draft.Writes text (.object ms)) {s : Settings} :
    parse? text = some s ↔ (∀ m ∈ ms, m.1 ≠ none) ∧ Gives ms "keySeparator" default.keySeparator s.keySeparator ∧
      Gives ms "language" default.language s.language := by
  rw [parse?_of_writes h, Option.map_eq_some_iff, gives_iff, gives_iff]
  simp only [Found.foldlM_add?_eq_some_iff]
  constructor
  · rintro ⟨q, ⟨hn, hs, hl⟩, rfl⟩
    exact ⟨hn, ⟨_, hs, rfl⟩, _, hl, rfl⟩
  · rintro ⟨hn, ⟨separator, hs, hs'⟩, language, hl, hl'⟩
    exact ⟨⟨separator, language⟩, ⟨hn, hs, hl⟩, by rw [Found.complete, hs', hl']⟩

/-- The members of the JSON object that settings are printed as. -/
theorem writes_toJson (s : Settings) : Draft.Writes s.toJson.render
    (.object [(some "keySeparator", .string (some s.keySeparator)),
      (some "language", .string (some s.language))]) := by
  have hwordless : s.toJson.Wordless := by simp [toJson]
  exact Draft.writes_render hwordless

/-- Settings are read back from their compact text. Of any JSON object, however it is written, the members named
`keySeparator` and `language` decide alone, wherever they stand: each is given at most once, as a string, and
one that is not given has its default. Other members may have any values and repeat. An object that repeats one
of the two, or gives it something else than a string, is refused, as is a name that is no text; a file with such
an object is an error. -/
theorem parse?_object (s : Settings) :
    parse? s.toJson.render = some s ∧
    ∀ (text : String) (members : List (Option String × Draft)), Draft.Writes text (.object members) →
      (parse? text = some s ↔ (∀ m ∈ members, m.1 ≠ none) ∧
        Gives members "keySeparator" default.keySeparator s.keySeparator ∧
          Gives members "language" default.language s.language) ∧
      (parse? text = none ↔
        (∃ m ∈ members, m.1 = none) ∨ Spoils members "keySeparator" ∨ Spoils members "language") ∧
      (parse? text = none → ∀ source, Configuration.ofFile source (text.toList.flatMap String.utf8EncodeChar) =
        .error .malformed) := by
  refine ⟨(parse?_eq_some_iff (writes_toJson s)).2 ⟨by simp, ?_, ?_⟩, fun text members h =>
    ⟨parse?_eq_some_iff h, ?_, fun hnone source => ?_⟩⟩
  · exact ⟨by simp [valuesOf], by simp [valuesOf], by simp [valuesOf]⟩
  · exact ⟨by simp [valuesOf], by simp [valuesOf], by simp [valuesOf]⟩
  · rw [parse?_of_writes h, Option.map_eq_none_iff, Found.foldlM_add?_eq_none_iff]
  · exact (Configuration.gives_iff.1 (.malformed rfl hnone)).symm

/-- An object with white space, a name with an escape, and another member that is repeated. -/
theorem parse?_object_spaced :
    let text := "\x7b \"x\":null,\"\\u006canguage\":\"de\",\"x\":1e2 \x7d"
    let number : NumberLiteral := ⟨false, ['1'], none, some (false, ['2'])⟩
    Draft.Writes text (.object [(some "x", .null), (some "language", .string (some "de")),
      (some "x", .number number.value?)]) ∧ parse? text = some ⟨".", "de"⟩ := by
  intro text number
  have hwrites : Draft.Writes text (.object [(some "x", .null), (some "language", .string (some "de")),
      (some "x", .number number.value?)]) := by
    have hx : Token.Spells ['"', 'x', '"'] (.string (some "x")) := Token.spells_chars (t := .string "x") rfl
    have hde : Token.Spells ['"', 'd', 'e', '"'] (.string (some "de")) :=
      Token.spells_chars (t := .string "de") rfl
    have hlanguage : Token.Spells "\"\\u006canguage\"".toList (.string (some "language")) := by
      obtain ⟨ps, hps, hsays⟩ := exists_spellsAll_escaped "anguage".toList
      have hzero : hexValue? '0' = some 0 := by decide
      have hsix : hexValue? '6' = some 6 := by decide
      have htwelve : hexValue? 'c' = some 12 := by decide
      have hl : Piece.Spells ['\\', 'u', '0', '0', '6', 'c'] (.unit 'l'.toNat) := .unit hzero hzero hsix htwelve
      exact .string (.cons hl hps) (.unit (by decide) hsays)
    have hallowed : number.WellFormed := ⟨by decide, by simp [number], by simp [number]⟩
    have hnumber : Token.Spells ['1', 'e', '2'] (.number number.value?) :=
      .number (.intro hallowed (.unsigned (.inl rfl)))
    have hspace : isSpace ' ' = true := by decide
    have hspelling := Spelling.mark (c := '\x7b') rfl (.space hspace (.token hx (.mark (c := ':') rfl (.token .null
      (.mark (c := ',') rfl (.token hlanguage (.mark (c := ':') rfl (.token hde (.mark (c := ',') rfl (.token hx
        (.mark (c := ':') rfl (.token hnumber (.space hspace (.mark (c := '\x7d') rfl .nil))))))))))))))
    simpa [Draft.Writes, text, tokens, tokensMembers] using hspelling
  refine ⟨hwrites, ((parse?_object ⟨".", "de"⟩).2 text _ hwrites).1.2 ⟨by simp, ?_, ?_⟩⟩
  · exact ⟨by simp [valuesOf], by simp [valuesOf], fun _ => rfl⟩
  · exact ⟨by simp [valuesOf], by simp [valuesOf], by simp [valuesOf]⟩

/-- An object whose one member leaves both settings at their defaults is refused, for the name of that member is
half of a surrogate pair. -/
theorem parse?_object_unnamed :
    let text := "\x7b\"\\udead\":0\x7d"
    let members : List (Option String × Draft) := [(none, .number (some (.integer 0)))]
    Draft.Writes text (.object members) ∧
      Gives members "keySeparator" default.keySeparator default.keySeparator ∧
        Gives members "language" default.language default.language ∧ parse? text = none := by
  intro text members
  have hwrites : Draft.Writes text (.object members) := by
    have hname : Token.Spells "\"\\udead\"".toList (.string none) := by
      have hd : hexValue? 'd' = some 0xd := by decide
      have he : hexValue? 'e' = some 0xe := by decide
      have ha : hexValue? 'a' = some 0xa := by decide
      have hhalf : Piece.Spells ['\\', 'u', 'd', 'e', 'a', 'd'] (.unit 0xDEAD) := .unit hd he ha hd
      refine .broken (.cons hhalf .nil) fun cs hsays => ?_
      cases Piece.text?_of_says hsays
    have hzero : Token.Spells ['0'] (.number (some (.integer 0))) := by
      have hallowed : (⟨false, ['0'], none, none⟩ : NumberLiteral).WellFormed := ⟨by decide, by simp, by simp⟩
      exact .number (.intro hallowed .none)
    have hspelling := Spelling.mark (c := '\x7b') rfl (.token hname (.mark (c := ':') rfl (.token hzero
      (.mark (c := '\x7d') rfl .nil))))
    simpa [Draft.Writes, text, members, tokens, tokensMembers] using hspelling
  refine ⟨hwrites, ?_, ?_, ?_⟩
  · exact ⟨by simp [members, valuesOf], by simp [members, valuesOf], fun _ => rfl⟩
  · exact ⟨by simp [members, valuesOf], by simp [members, valuesOf], fun _ => rfl⟩
  · rw [parse?_of_writes hwrites]
    rfl

end TripLocale.Settings
