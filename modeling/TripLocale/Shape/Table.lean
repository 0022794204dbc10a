/-
The shape that every bundle has.

The trip planner's client finds texts by exact key and choices by position, so a bundle must have exactly
the keys of `Shape.root`, with a value of the given kind under each. `Shape.sectionKeys?` lists the keys
of a section by its path.
-/
import TripLocale.MessageCode

namespace TripLocale

/-- What stands under a key. -/
inductive Shape where
  | text
  /-- A list of `size` items. -/
  | list (size : Nat)
  | choices
  /-- A section with exactly these keys. -/
  | fields (entries : List (String × Shape))
  /-- A section with a text for every message code. -/
  | messages

namespace Shape

/-- The kind of value that a shape asks for. -/
def kind : Shape → ValueKind
  | text => .text
  | list _ => .list
  | choices => .choices
  | fields _ => .bundle
  | messages => .bundle

/-- A section of texts. -/
def texts (keys : List String) : Shape := fields (keys.map fun k => (k, text))

/-! ## The table -/

/-- The sections of a bundle and what they hold. -/
def root : List (String × Shape) :=
  [("config", fields
      [("metricsSystem", text),
        ("rightClickMsg", text),
        ("attribution", texts ["title", "content"])]),
    ("contextMenu", texts
      ["fromHere", "toHere", "centerHere", "zoomInHere", "zoomOutHere", "previous", "next"]),
    ("service", texts ["weekdays", "saturday", "sunday", "schedule"]),
    ("indicators", texts ["ok", "date", "loading", "searching", "qEmptyText"]),
    ("buttons", texts
      ["reverse", "reverseTip", "reverseMiniTip", "edit", "editTip", "clear", "clearTip",
        "fullScreen", "fullScreenTip", "print", "printTip", "link", "linkTip", "feedback",
        "feedbackTip", "submit", "clearButton", "ok", "cancel", "yes", "no"]),
    ("directions", texts
      ["southEast", "southWest", "northEast", "northWest", "north", "west", "south", "east",
        "bound", "left", "right", "slightly_left", "slightly_right", "hard_left", "hard_right",
        "continue", "to_continue", "becomes", "at"]),
    ("time", fields
      [("minute_abbrev", text),
        ("minutes_abbrev", text),
        ("second_abbrev", text),
        ("seconds_abbrev", text),
        ("months", list 12)]),
    ("systemmap", fields [("labels", texts ["panelTitle"])]),
    ("tripPlanner", fields
      [("labels", texts
          ["panelTitle", "tabTitle", "inputTitle", "optTitle", "submitMsg", "optionalTitle",
            "date", "time", "when", "from", "fromHere", "to", "toHere", "minimize",
            "maxWalkDistance", "arriveDepart", "mode", "wheelchair", "go", "planTrip",
            "newTrip"]),
        ("link", texts
          ["text", "trip_separator", "bike_separator", "walk_separator", "google_transit",
            "google_bikes", "google_walk", "google_domain"]),
        ("error", texts ["title", "deadMsg", "geoFromMsg", "geoToMsg"]),
        ("msgcodes", messages),
        ("options", choices),
        ("arriveDepart", choices),
        ("maxWalkDistance", choices),
        ("mode", choices),
        ("wheelchair", choices)]),
    ("CLASS_NAME", text)]

/-! ## Sections by path -/

/-- The shape under a key of a section. -/
def find? (entries : List (String × Shape)) (key : String) : Option Shape :=
  (entries.find? (·.1 == key)).map (·.2)

/-- The keys of the section that `path` leads to from `entries`. Nothing lies below the message
texts, and the rest of a path that leads there is not looked at. -/
def keysBelow? (entries : List (String × Shape)) : List String → Option (List String)
  | [] => some (entries.map (·.1))
  | key :: path =>
    match find? entries key with
    | some (fields inner) => keysBelow? inner path
    | some messages => some (MessageCode.all.map MessageCode.key)
    | _ => none

/-- The keys of a section in order of the table, where `path` is its keys joined by dots. The empty path
is the root. -/
def sectionKeys? (path : String) : Option (List String) :=
  if path.isEmpty then keysBelow? root []
  else keysBelow? root ((Text.splitOn ['.'] path.toList).map String.ofList)

end Shape

end TripLocale
