/-
Where the settings of a directory are looked for, whichever path names the directory (`load_of_directory`).

The search starts in the directory that the path names and goes up the path's text. If the path has no two dots,
that is up the directories around, to the root for an absolute path and to the working directory for a relative
one; which of these paths it is makes no difference. It does where the text leads elsewhere: above `/a/b/..`,
which names `/a`, stands `/a/b` (`not_forall_load_of_directory`).
-/
import TripLocale.Proofs.Files.Directory
import TripLocale.Proofs.Settings.Nearest

namespace TripLocale

open TripLocale.Text (Bytes)

namespace FileTree

/-- The settings file in a directory. -/
def settingsFile (l : Location) : Location := l ++ [".otp-locale.json"]

/-- The first of the directories that holds a settings file: the plain path of the file, and its content. -/
def nearest? (t : FileTree) (ls : List Location) : Option (Path × Bytes) :=
  ls.findSome? fun l => (t.file? (settingsFile l)).map (⟨true, settingsFile l⟩, ·)

/-- The plain path of the place that a path leads to. -/
def plainPath (t : FileTree) (here : Location) (p : Path) : Path :=
  match t.locate? here p with
  | some l => ⟨true, l⟩
  | none => p

theorem plainPath_of_locate? {t : FileTree} {here : Location} {p : Path} {l : Location}
    (h : t.locate? here p = some l) : t.plainPath here p = ⟨true, l⟩ := by
  unfold plainPath
  rw [h]

end FileTree

namespace Configuration

open FileTree (settingsFile)

/-! ## Sources -/

/-- The configuration with its file under another path. -/
def mapSource (g : Path → Path) (c : Configuration) : Configuration := { c with source := c.source.map g }

variable {g : Path → Path}

theorem map_ofSettings (settings : Settings) (source : Option Path) :
    (ofSettings settings source).map (mapSource g) = ofSettings settings (source.map g) := by
  by_cases hf : settings.faults = []
  · obtain ⟨-, -, language, hl⟩ := (Settings.faults_eq_nil_iff settings).1 hf
    rw [ofSettings_of_language hf hl, ofSettings_of_language hf hl]
    rfl
  · rw [ofSettings_of_faults hf, ofSettings_of_faults hf]
    rfl

theorem map_ofFile (source : Path) (content : Bytes) :
    (ofFile source content).map (mapSource g) = ofFile (g source) content := by
  rw [ofFile, ofFile]
  cases Text.decode? content with
  | none => rfl
  | some text =>
    dsimp only
    cases Settings.parse? text with
    | none => rfl
    | some settings => exact map_ofSettings settings (some source)

/-- What a file says does not depend on the path under which it was found. -/
theorem map_ofFound (found : Option (Path × Bytes)) :
    (ofFound found).map (mapSource g) = ofFound (found.map fun f => (g f.1, f.2)) := by
  cases found with
  | none => exact map_ofSettings Settings.default none
  | some f => exact map_ofFile f.1 f.2

/-! ## The search in directories -/

variable {t : FileTree} {here : Location}

/-- A candidate is the settings file of the directory that its path names. -/
theorem find?_plainPath (start : Path) :
    (find? (t.content? here) start).map (fun f => (t.plainPath here f.1, f.2)) =
      start.ancestors.findSome? fun p => (t.directory? here p).bind fun l =>
        (t.file? (settingsFile l)).map (⟨true, settingsFile l⟩, ·) := by
  rw [find?, candidates, List.findSome?_map, List.map_findSome?]
  congr 1
  funext p
  have hlocate : t.locate? here (p.join fileName) = (t.directory? here p).map settingsFile := t.locate?_join p _
  rw [Function.comp_apply, Function.comp_apply, FileTree.content?_eq, hlocate]
  cases hd : t.directory? here p with
  | none => rfl
  | some l =>
    have hplain := FileTree.plainPath_of_locate? (hlocate.trans (congrArg _ hd))
    simp [Option.map_map, Function.comp_def, hplain]

theorem load_plainPath (start : Path) :
    (load (t.content? here) (some start)).map (mapSource (t.plainPath here)) =
      ofFound (start.ancestors.findSome? fun p => (t.directory? here p).bind fun l =>
        (t.file? (settingsFile l)).map (⟨true, settingsFile l⟩, ·)) := by
  rw [load, Option.bind_some, map_ofFound, find?_plainPath]

/-- A directory's own settings are loaded whichever path names it. For a path without two dots they are those of
the nearest directory around it that holds a settings file: of all directories around it if the path is absolute,
and of those up to the working directory if it is relative. -/
theorem load_of_directory {start : Path} {d : Location} (hd : t.directory? here start = some d) :
    let loaded := (load (t.content? here) (some start)).map (mapSource (t.plainPath here))
    (∀ content, t.file? (settingsFile d) = some content →
      loaded = ofFile ⟨true, settingsFile d⟩ content) ∧
    (".." ∉ start.pieces → start.absolute = true → loaded = ofFound (t.nearest? (Location.around d))) ∧
    (".." ∉ start.pieces → start.absolute = false →
      loaded = ofFound (t.nearest? ((Location.around d).filter here.isPrefixOf))) := by
  have climbed : ".." ∉ start.pieces →
      (load (t.content? here) (some start)).map (mapSource (t.plainPath here)) =
        ofFound (t.nearest? ((Location.around d).filter (start.base here).isPrefixOf)) := fun hup => by
    rw [load_plainPath, FileTree.findSome?_ancestors _ hup hd]
    rfl
  refine ⟨fun content hc => ?_, fun hup habs => ?_, fun hup hrel => ?_⟩
  · rw [load_plainPath, Path.ancestors, List.findSome?_cons, hd, Option.bind_some, hc]
    rfl
  · have hroot : (start.base here).isPrefixOf = fun _ => true := by
      rw [Path.base, if_pos habs]
      rfl
    rw [climbed hup, hroot, List.filter_true]
  · have hhere : start.base here = here := by
      rw [Path.base, hrel]
      rfl
    rw [climbed hup, hhere]

/-- The directory `/srv/web` by an absolute path and by a relative one from there: the file of `/srv` is found
by the first only, as the search from the second ends in the working directory. -/
theorem load_of_directory_web :
    let content : Bytes := "\x7b\"keySeparator\":\"/\"\x7d".toList.flatMap String.utf8EncodeChar
    let t : FileTree := ⟨[["srv", "web"]], [(["srv", ".otp-locale.json"], content)]⟩
    let here := ["srv", "web"]
    let long := Path.ofString "/srv/./web//"
    let short := Path.ofString "."
    t.directory? here long = some here ∧ ".." ∉ long.pieces ∧ long.absolute = true ∧
      (load (t.content? here) (some long)).map (mapSource (t.plainPath here)) =
        ofFile (Path.ofString "/srv/.otp-locale.json") content ∧
      t.directory? here short = some here ∧ ".." ∉ short.pieces ∧ short.absolute = false ∧
      (load (t.content? here) (some short)).map (mapSource (t.plainPath here)) = .ok default := by
  intro content t here long short
  have hlong : t.directory? here long = some here := by decide
  have hshort : t.directory? here short = some here := by decide
  have hup : ".." ∉ long.pieces := by decide
  have hup' : ".." ∉ short.pieces := by decide
  have habs : long.absolute = true := by decide
  have hrel : short.absolute = false := by decide
  have hall : t.nearest? (Location.around here) = some (Path.ofString "/srv/.otp-locale.json", content) := by
    decide
  have hone : t.nearest? ((Location.around here).filter here.isPrefixOf) = none := by decide
  refine ⟨hlong, hup, habs, ?_, hshort, hup', hrel, ?_⟩
  · rw [(load_of_directory hlong).2.1 hup habs, hall]
    rfl
  · rw [(load_of_directory hshort).2.2 hup' hrel, hone]
    rfl

/-- Not every path of a directory finds its settings: from `/a/b/..`, which names `/a`, the search meets the
file of `/a/b` before that of the root. -/
theorem not_forall_load_of_directory :
    ¬ ∀ (t : FileTree) (here : Location) (start : Path) (d : Location), t.directory? here start = some d →
      (load (t.content? here) (some start)).map (mapSource (t.plainPath here)) =
        ofFound (t.nearest? (Location.around d)) := by
  intro h
  let colon : Bytes := "\x7b\"keySeparator\":\":\"\x7d".toList.flatMap String.utf8EncodeChar
  let slash : Bytes := "\x7b\"keySeparator\":\"/\"\x7d".toList.flatMap String.utf8EncodeChar
  let t : FileTree := ⟨[], [([".otp-locale.json"], colon), (["a", "b", ".otp-locale.json"], slash)]⟩
  have hload := h t [] (Path.ofString "/a/b/..") ["a"] (by decide)
  have hseparator := congrArg (fun r => r.toOption.map keySeparator) hload
  revert hseparator
  decide +kernel

end Configuration

end TripLocale
