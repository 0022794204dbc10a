/-
The settings of the lookup service, and what makes them valid.

There are two: the separator between the keys of a path, and the code of the language to serve. A
separator must hold at least one character and no bracket, since brackets enclose positions; a language
must be one that a bundle ships for.
-/
import TripLocale.Json.Printer
import TripLocale.KeyPath.Basic
import TripLocale.Language

namespace TripLocale

/-- The settings as a file gives them. -/
structure Settings where
  keySeparator : String
  language : String
deriving DecidableEq, Repr

/-- What is wrong with settings. -/
inductive SettingsFault where
  /-- The separator is empty. -/
  | emptySeparator
  /-- The separator holds a bracket. -/
  | bracketInSeparator (separator : String)
  /-- No bundle ships for the language. -/
  | unknownLanguage (code : String)
  /-- The language cannot be named, though nothing is wrong with the settings. -/
  | unresolvedLanguage (code : String)
deriving DecidableEq, Repr

namespace SettingsFault

/-- The setting at fault. -/
def field : SettingsFault → String
  | emptySeparator => "keySeparator"
  | bracketInSeparator _ => "keySeparator"
  | unknownLanguage _ => "language"
  | unresolvedLanguage _ => "language"

/-- The fault in words. -/
def message : SettingsFault → String
  | emptySeparator =>
    "The separator cannot be empty. Please specify a separator, for example: \".\" (dot)"
  | bracketInSeparator separator =>
    "The separator '" ++ separator ++
      "' cannot contain '[' or ']', which are reserved for indexes"
  | unknownLanguage code =>
    "Unknown language '" ++ code ++ "'. Available: " ++
      ", ".intercalate (Language.all.map Language.code)
  | unresolvedLanguage code => "Unknown language '" ++ code ++ "'"

/-- The fault in words, with the setting at fault. -/
def display (f : SettingsFault) : String :=
  "Configuration error in '" ++ f.field ++ "': " ++ f.message

end SettingsFault

namespace Settings

/-- The settings where none are given. -/
def default : Settings := ⟨KeyPath.defaultSeparator, Language.default.code⟩

/-- The language that the settings name. -/
def language? (s : Settings) : Option Language := Language.ofCode? s.language

/-- What is wrong with the separator. -/
def separatorFaults (s : Settings) : List SettingsFault :=
  if s.keySeparator.isEmpty then [.emptySeparator]
  else if s.keySeparator.toList.any fun c => c == '[' || c == ']' then
    [.bracketInSeparator s.keySeparator]
  else []

/-- What is wrong with the language. -/
def languageFaults (s : Settings) : List SettingsFault :=
  if s.language?.isNone then [.unknownLanguage s.language] else []

/-- What is wrong with the settings, the separator first. -/
def faults (s : Settings) : List SettingsFault := s.separatorFaults ++ s.languageFaults

/-- The settings as a JSON object. -/
def toJson (s : Settings) : Json :=
  .object [("keySeparator", .string s.keySeparator), ("language", .string s.language)]

/-- The default settings are valid. -/
theorem faults_default : default.faults = [] := by decide

/-- Settings without a fault have a separator that is not empty and holds no bracket, and name a shipped
language. -/
theorem faults_eq_nil_iff (s : Settings) :
    s.faults = [] ↔
      s.keySeparator ≠ "" ∧ (∀ c ∈ s.keySeparator.toList, c ≠ '[' ∧ c ≠ ']') ∧
        ∃ l, s.language? = some l := by
  unfold faults separatorFaults languageFaults
  rw [List.append_eq_nil_iff]
  constructor
  · rintro ⟨h1, h2⟩
    split at h1
    · simp at h1
    · next he =>
      split at h1
      · simp at h1
      · next hb =>
        refine ⟨by simpa using he, ?_, ?_⟩
        · simpa using hb
        · exact Option.ne_none_iff_exists'.1 (by simpa using h2)
  · rintro ⟨h1, h2, l, h3⟩
    have hb : (s.keySeparator.toList.any fun c => c == '[' || c == ']') = false := by
      simpa [List.any_eq_false] using h2
    simp [h1, hb, h3]

end Settings

end TripLocale
