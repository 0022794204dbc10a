/-
Numbered lists in messages.
-/
namespace TripLocale.Text

/-- Texts as a list, one on a line and numbered from one. -/
def numbered (texts : List String) : String :=
  "\n".intercalate (texts.mapIdx fun i t => "  " ++ toString (i + 1) ++ ". " ++ t)

end TripLocale.Text
