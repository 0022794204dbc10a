/-
Settings in force.

A configuration is settings without fault, the language they name, and the file they come from. It is made
of the settings that a file holds, or of the defaults where there is no file; a file that is no text, holds
no settings or holds faulty ones is an error.
-/
import TripLocale.Files.Path
import TripLocale.Settings.Reader
import TripLocale.Text.Numbered
import TripLocale.Text.Utf8

namespace TripLocale

open TripLocale.Text (Bytes)

/-- Why there is no configuration. -/
inductive ConfigurationError where
  /-- The settings have faults. -/
  | invalid (faults : List SettingsFault)
  /-- The file is no text. -/
  | notText
  /-- The text holds no settings. -/
  | malformed
deriving DecidableEq, Repr

/-- The error in words. -/
def ConfigurationError.message : ConfigurationError → String
  | invalid faults =>
    "Configuration validation failed:\n" ++
      Text.numbered (faults.map fun f => f.field ++ " - " ++ f.message)
  | notText => "Failed to load configuration file: stream did not contain valid UTF-8"
  | malformed => "Failed to parse configuration: the text holds no settings"

/-- Settings without fault, the language they name, and the file they come from. -/
structure Configuration where
  settings : Settings
  language : Language
  source : Option Path
deriving DecidableEq, Repr

namespace Configuration

/-- The configuration of the default settings. -/
def default : Configuration := ⟨Settings.default, Language.default, none⟩

/-- The separator between the keys of a path. -/
def keySeparator (c : Configuration) : String := c.settings.keySeparator

/-- The configuration of settings, if they have no fault. The language is looked up once more, and
settings whose language is not found there are refused too. -/
def ofSettings (settings : Settings) (source : Option Path) :
    Except ConfigurationError Configuration :=
  match settings.faults with
  | [] =>
    match settings.language? with
    | some language => .ok ⟨settings, language, source⟩
    | none => .error (.invalid [.unresolvedLanguage settings.language])
  | faults => .error (.invalid faults)

/-- The configuration that the file `source` with this content holds. -/
def ofFile (source : Path) (content : Bytes) : Except ConfigurationError Configuration :=
  match Text.decode? content with
  | none => .error .notText
  | some text =>
    match Settings.parse? text with
    | none => .error .malformed
    | some settings => ofSettings settings (some source)

/-- The configuration of a file that was found, and that of the default settings if none was. -/
def ofFound : Option (Path × Bytes) → Except ConfigurationError Configuration
  | some (source, content) => ofFile source content
  | none => ofSettings Settings.default none

/-- Settings with faults are refused with all of them. -/
theorem ofSettings_of_faults {settings : Settings} (h : settings.faults ≠ []) (source : Option Path) :
    ofSettings settings source = .error (.invalid settings.faults) := by
  unfold ofSettings
  split
  · next hf => exact absurd hf h
  · rfl

/-- Settings without fault name a language, so the second look at it never fails. -/
theorem ofSettings_of_language {settings : Settings} {language : Language} (h : settings.faults = [])
    (hl : settings.language? = some language) (source : Option Path) :
    ofSettings settings source = .ok ⟨settings, language, source⟩ := by
  rw [ofSettings, h]
  simp only [hl]

end Configuration

end TripLocale
