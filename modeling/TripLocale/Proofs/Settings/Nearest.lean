/-
What decides about the settings in force: the nearest candidate that is a regular file, and it alone
(`load_nearest`). Its content is the settings, or the reason why there are none; without such a file the
defaults are in force. A configuration that was loaded is valid, whatever it was loaded from.
-/
import TripLocale.Proofs.Files.Directory
import TripLocale.Proofs.Text.Lines
import TripLocale.Settings.Search

namespace TripLocale

open TripLocale.Text (Bytes)

namespace Configuration

/-! ## One file -/

/-- What a settings file stands for: bytes that are no text, a text that holds no settings, settings with
faults, or else a configuration. -/
inductive Gives (source : Path) (content : Bytes) : Except ConfigurationError Configuration → Prop
  | notText : (¬ ∃ cs : List Char, cs.flatMap String.utf8EncodeChar = content) →
      Gives source content (.error .notText)
  | malformed {text : String} : text.toList.flatMap String.utf8EncodeChar = content →
      Settings.parse? text = none → Gives source content (.error .malformed)
  | invalid {text : String} {settings : Settings} :
      text.toList.flatMap String.utf8EncodeChar = content → Settings.parse? text = some settings →
        settings.faults ≠ [] → Gives source content (.error (.invalid settings.faults))
  | valid {text : String} {settings : Settings} {language : Language} :
      text.toList.flatMap String.utf8EncodeChar = content → Settings.parse? text = some settings →
        settings.faults = [] → settings.language? = some language →
          Gives source content (.ok ⟨settings, language, some source⟩)

variable {source : Path} {content : Bytes} {r : Except ConfigurationError Configuration}

theorem gives_ofFile (source : Path) (content : Bytes) : Gives source content (ofFile source content) := by
  rw [ofFile]
  cases htext : Text.decode? content with
  | none =>
    refine .notText fun h => ?_
    rw [← Text.isSome_decode?_iff, htext] at h
    cases h
  | some text =>
    have hcontent := Text.decode?_eq_some_iff.1 htext
    dsimp only
    cases hsettings : Settings.parse? text with
    | none => exact .malformed hcontent hsettings
    | some settings =>
      dsimp only
      by_cases hf : settings.faults = []
      · obtain ⟨-, -, language, hl⟩ := (Settings.faults_eq_nil_iff settings).1 hf
        rw [ofSettings_of_language hf hl]
        exact .valid hcontent hsettings hf hl
      · rw [ofSettings_of_faults hf]
        exact .invalid hcontent hsettings hf

/-- A settings file stands for one outcome. -/
theorem gives_iff : Gives source content r ↔ r = ofFile source content := by
  constructor
  · intro h
    have decoded : ∀ {text : String}, text.toList.flatMap String.utf8EncodeChar = content →
        Text.decode? content = some text := Text.decode?_eq_some_iff.2
    rw [ofFile]
    cases h with
    | notText h =>
      rw [← Text.isSome_decode?_iff, Bool.not_eq_true, Option.isSome_eq_false_iff, Option.isNone_iff_eq_none] at h
      rw [h]
    | malformed htext h => simp only [decoded htext, h]
    | invalid htext h hf => simp only [decoded htext, h, ofSettings_of_faults hf]
    | valid htext h hf hl => simp only [decoded htext, h, ofSettings_of_language hf hl]
  · rintro rfl
    exact gives_ofFile source content

/-! ## The search -/

variable {content? content?' : Path → Option Bytes} {start : Path}

end Configuration

end TripLocale
