/-
The Polish edition, as the text that ships.

The text is kept line by line, since it is read as any other bundle text is: `Edition.read` parses it and
checks its shape.
-/
namespace TripLocale.Edition

/-- The lines of the Polish edition. -/
def polishLines : List String :=
  ["\x7b",
    "  \"config\": \x7b",
    r#"    "metricsSystem": "international","#,
    r#"    "rightClickMsg": "TODO - localize me - Right-click on the map to designate the start and end of your trip.","#,
    "    \"attribution\": \x7b",
    r#"      "title": "License Attribution","#,
    r#"      "content": "Disclaimer goes here""#,
    "    \x7d",
    "  \x7d,",
    "  \"contextMenu\": \x7b",
    r#"    "fromHere": "Rozpocznij podróż tutaj","#,
    r#"    "toHere": "Zakończ podróż tutaj","#,
    r#"    "centerHere": "Centruj mapę tutaj","#,
    r#"    "zoomInHere": "Przybliż tutaj","#,
    r#"    "zoomOutHere": "Oddal stąd","#,
    r#"    "previous": "Poprzednia pozycja na mapie","#,
    r#"    "next": "Następna pozycja na mapie""#,
    "  \x7d,",
    "  \"service\": \x7b",
    r#"    "weekdays": "Dni robocze","#,
    r#"    "saturday": "Sobota","#,
    r#"    "sunday": "Niedziela","#,
    r#"    "schedule": "Rozkład""#,
    "  \x7d,",
    "  \"indicators\": \x7b",
    r#"    "ok": "OK","#,
    r#"    "date": "Data","#,
    r#"    "loading": "Ładowanie","#,
    r#"    "searching": "Szukanie...","#,
    r#"    "qEmptyText": "Adres, skrzyżowanie, obiekt lub ID przystanku...""#,
    "  \x7d,",
    "  \"buttons\": \x7b",
    r#"    "reverse": "Odwróć","#,
    r#"    "reverseTip": "<b>Odwróć kierunki</b><br/>Zaplanuj podróż powrotną poprzez zamianę miejscami punktu startowego i końcowego podróży i przeskok czasu do przodu.","#,
    r#"    "reverseMiniTip": "Odwróć kierunki","#,
    r#"    "edit": "Edytuj","#,
    r#"    "editTip": "<b>Edytuj podróż</b><br/>Powróć do planowania podróży z detalami tej podróży.","#,
    r#"    "clear": "Wyczyść","#,
    r#"    "clearTip": "<b>Wyczyść</b><br/>Wyczyść mapę i wszystkie aktywne narzędzia.","#,
    r#"    "fullScreen": "Pełen ekran","#,
    r#"    "fullScreenTip": "<b>Pełen ekran</b><br/>Pokaż lub ukryj panele narzędzi","#,
    r#"    "print": "Drukuj","#,
    r#"    "printTip": "<b>Drukuj</b><br/>Wydrukuj plan podróży (bez mapy).","#,
    r#"    "link": "Link","#,
    r#"    "linkTip": "<b>Link</b><br/>Pokaż link do tego planu podróży.","#,
    r#"    "feedback": "Opinie","#,
    r#"    "feedbackTip": "<b>Opinie</b><br/>Wyślij swoje uwagi i doświadczenia z narzędzia","#,
    r#"    "submit": "Wyślij","#,
    r#"    "clearButton": "Wyczyść","#,
    r#"    "ok": "OK","#,
    r#"    "cancel": "Anuluj","#,
    r#"    "yes": "Tak","#,
    r#"    "no": "Nie""#,
    "  \x7d,",
    "  \"directions\": \x7b",
    r#"    "southEast": "południowy wschód","#,
    r#"    "southWest": "południowy zachód","#,
    r#"    "northEast": "północny wschód","#,
    r#"    "northWest": "północny zachód","#,
    r#"    "north": "północ","#,
    r#"    "west": "zachód","#,
    r#"    "south": "południe","#,
    r#"    "east": "wschód","#,
    r#"    "bound": "w kierunku","#,
    r#"    "left": "lewo","#,
    r#"    "right": "prawo","#,
    r#"    "slightly_left": "lekko w lewo","#,
    r#"    "slightly_right": "lekko w prawo","#,
    r#"    "hard_left": "mocno w lewo","#,
    r#"    "hard_right": "mocno w prawo","#,
    r#"    "continue": "kontynuuj","#,
    r#"    "to_continue": "kontynuować","#,
    r#"    "becomes": "zmienia się w","#,
    r#"    "at": "o""#,
    "  \x7d,",
    "  \"time\": \x7b",
    r#"    "minute_abbrev": "min","#,
    r#"    "minutes_abbrev": "minut","#,
    r#"    "second_abbrev": "sek","#,
    r#"    "seconds_abbrev": "sekund","#,
    r#"    "months": ["Sty", "Lut", "Mar", "Kwi", "Maj", "Cze", "Lip", "Sie", "Wrz", "Paz", "Lis", "Gru"]"#,
    "  \x7d,",
    "  \"systemmap\": \x7b",
    "    \"labels\": \x7b",
    r#"      "panelTitle": "Mapa systemowa""#,
    "    \x7d",
    "  \x7d,",
    "  \"tripPlanner\": \x7b",
    "    \"labels\": \x7b",
    r#"      "panelTitle": "Planer podróży","#,
    r#"      "tabTitle": "Zaplanuj podróż","#,
    r#"      "inputTitle": "Szczegóły podróży","#,
    r#"      "optTitle": "Preferencje podróży (opcjonalne)","#,
    r#"      "submitMsg": "Planuje Twoją podróż...","#,
    r#"      "optionalTitle": "","#,
    r#"      "date": "Data","#,
    r#"      "time": "Godzina","#,
    r#"      "when": "Kiedy","#,
    r#"      "from": "Z","#,
    r#"      "fromHere": "Skąd","#,
    r#"      "to": "Do","#,
    r#"      "toHere": "Dokąd","#,
    r#"      "minimize": "Pokaż","#,
    r#"      "maxWalkDistance": "Maksymalny spacer","#,
    r#"      "arriveDepart": "Dojazd/odjazd o","#,
    r#"      "mode": "Podróżuj","#,
    r#"      "wheelchair": "Podróż dostępna dla niepełnosprawnych","#,
    r#"      "go": "Idź","#,
    r#"      "planTrip": "Planuj swoją podróż","#,
    r#"      "newTrip": "Nowa podróż""#,
    "    \x7d,",
    "    \"link\": \x7b",
    r#"      "text": "Link to this trip (OTP)","#,
    r#"      "trip_separator": "This trip on other transit planners","#,
    r#"      "bike_separator": "On other bike trip planners","#,
    r#"      "walk_separator": "On other walking direction planners","#,
    r#"      "google_transit": "Google Transit","#,
    r#"      "google_bikes": "Google Bike Directions","#,
    r#"      "google_walk": "Google Walking Directions","#,
    r#"      "google_domain": "http://www.google.com""#,
    "    \x7d,",
    "    \"error\": \x7b",
    r#"      "title": "Błąd planera podróży","#,
    r#"      "deadMsg": "Planer podróży nie odpowiada. Odczekaj kilka minut i spróbuj ponownie, lub spróbuj wersji tekstowej planera (zobacz link poniżej).","#,
    r#"      "geoFromMsg": "Wybierz lokalizację 'Z' dla Twojej podróży: ","#,
    r#"      "geoToMsg": "Wybierz lokalizację 'Do' dla Twojej podróży: ""#,
    "    \x7d,",
    "    \"msgcodes\": \x7b",
    r#"      "200": "Plan OK","#,
    r#"      "340": "Geokod Z niejednoznaczny","#,
    r#"      "350": "Geokod Do niejednoznaczny","#,
    r#"      "360": "Geokody Z i Do niejednoznaczne","#,
    r#"      "400": "Podróż poza obsługiwanym obszarem","#,
    r#"      "404": "Trasa nieodnaleziona","#,
    r#"      "406": "Brak czasów w rozkładzie","#,
    r#"      "408": "Limit czasu osiągnięty","#,
    r#"      "409": "Zbyt blisko","#,
    r#"      "413": "Niewłaściwy parametr","#,
    r#"      "440": "Geokod Z nieodnaleziony","#,
    r#"      "450": "Geokod Do nieodnaleziony","#,
    r#"      "460": "Geokody Z i Do nieodnalezione","#,
    r#"      "500": "Błąd serwera""#,
    "    \x7d,",
    r#"    "options": ["#,
    r#"      ["TRANSFERS", "Mało przesiadek"],"#,
    r#"      ["QUICK", "Najszybsza podróż"],"#,
    r#"      ["SAFE", "Najbezpieczniejsza podróż"]"#,
    "    ],",
    r#"    "arriveDepart": ["#,
    r#"      ["false", "Odjazd"],"#,
    r#"      ["true", "Przyjazd"]"#,
    "    ],",
    r#"    "maxWalkDistance": ["#,
    r#"      ["200", "200 m"],"#,
    r#"      ["500", "500 m"],"#,
    r#"      ["1000", "1 km"],"#,
    r#"      ["1500", "1,5 km"],"#,
    r#"      ["5000", "5 km"],"#,
    r#"      ["10000", "10 km"]"#,
    "    ],",
    r#"    "mode": ["#,
    r#"      ["TRANSIT,WALK", "Transport publiczny"],"#,
    r#"      ["BUSISH,TRAINISH,WALK", "Autobus i tramwaj"],"#,
    r#"      ["BUSISH,WALK", "Tylko autobus"],"#,
    r#"      ["TRAINISH,WALK", "Tylko tramwaj"],"#,
    r#"      ["WALK", "Tylko spacer"],"#,
    r#"      ["BICYCLE", "Rower"],"#,
    r#"      ["TRANSIT,BICYCLE", "Transport publiczny i rower"]"#,
    "    ],",
    r#"    "wheelchair": ["#,
    r#"      ["false", "Niewymagane"],"#,
    r#"      ["true", "Wymagane"]"#,
    "    ]",
    "  \x7d,",
    r#"  "CLASS_NAME": "otp.locale.Polish""#,
    "\x7d",
    ""]

/-- The text of the Polish edition. -/
def polishText : String := "\n".intercalate polishLines

end TripLocale.Edition
