import VisualNovel.Engine.Boundary
import VisualNovel.Engine.Launch
import VisualNovel.Json.Parser

/-!
Projects: directories with a story.

A project may have a file that names its title, its first script, its quick save, and settings of
the interface. Everything in it can be left out, and what is there has to be of the right kind.
Example projects stand in a directory of the package.
-/

namespace VisualNovel

/-- A project that can be played. -/
structure Project where
  /-- The absolute path of its directory, by which it is known. -/
  root : Text
  title : Text
  /-- The path of its first script. -/
  entry : Text
  savePath : Text
  settings : SettingChoices := {}
  features : FeatureChoices := {}
  deriving DecidableEq, Repr, Inhabited

/-- Where a project is taken from. -/
inductive ProjectSource where
  | directory (path : Text)
  | example (id : Text)
  deriving DecidableEq, Repr, Inhabited

/-- The source that two selectors name: exactly one of them is given. -/
def ProjectSource.select (directory id : Option Text) : Except PlayerProblem ProjectSource :=
  match directory, id with
  | some _, some _ => .error .sourceConflict
  | some path, none => .ok (.directory path)
  | none, some id => .ok (.example id)
  | none, none => .error .sourceRequired

namespace Project

/-! ## 1. The project file -/

/-- The name of the project file. -/
def fileName : Text := "project.json"

/-- A problem of a project file. -/
def invalid {α : Type} (file : Text) (words : List Text) : Except PlayerProblem α :=
  .error (.projectInvalid file (ScriptProblem.sentence words))

/-- A text that may be left out, but is not empty. -/
def text? (file : Text) (j : Json) (name : String) : Except PlayerProblem (Option Text) :=
  match j.field? name with
  | none => .ok none
  | some (.str t) =>
    if t.isEmpty then invalid file [inQuotes name, " must be a non-empty string."] else .ok (some t)
  | some _ => invalid file [inQuotes name, " must be a non-empty string."]

/-- A positive number that may be left out. -/
def positive? (file : Text) (j : Json) (name : String) : Except PlayerProblem (Option Float) :=
  match j.field? name with
  | none => .ok none
  | some value =>
    match value.finite? with
    | some x =>
      if 0.0 < x then .ok (some x) else invalid file [inQuotes name, " must be a positive number."]
    | none => invalid file [inQuotes name, " must be a positive number."]

/-- A truth value that may be left out. -/
def bool? (file : Text) (j : Json) (name : String) : Except PlayerProblem (Option Bool) :=
  match j.field? name with
  | none => .ok none
  | some (.bool b) => .ok (some b)
  | some _ => invalid file [inQuotes name, " must be a boolean."]

/-- An object that may be left out. -/
def object? (file : Text) (j : Json) (name shown : String) : Except PlayerProblem (Option Json) :=
  match j.field? name with
  | none => .ok none
  | some (.obj fields) => .ok (some (.obj fields))
  | some _ => invalid file [inQuotes shown, " must be an object."]

/-- A button of a menu: a label and a known action. -/
def button? (j : Json) : Option MenuButton := do
  let label ← j.need "label" Json.text?
  let action ← j.need "action" Json.text?
  if MenuAction.isNamed action then some ⟨label, action⟩ else none

/-- The buttons of a menu, which may be left out. -/
def buttons? (file : Text) (j : Json) (menu : String) :
    Except PlayerProblem (Option (List MenuButton)) :=
  let shown := inQuotes (ScriptProblem.sentence ["ui.", menu, ".buttons"])
  match j.field? "buttons" with
  | none => .ok none
  | some (.arr items) =>
    match items.mapM button? with
    | some buttons => .ok (some buttons)
    | none => invalid file [shown, " entries need a label and a known action."]
  | some _ => invalid file [shown, " must be an array."]

/-- What a project says about a menu. -/
def menu? (file : Text) (j : Json) (name : String) : Except PlayerProblem (Option MenuChoices) := do
  match ← object? file j name ("ui." ++ name) with
  | none => return none
  | some menu =>
    let enabled ← bool? file menu "enabled"
    let buttons ← buttons? file menu name
    return some ⟨enabled, buttons⟩

/-- What a project says about the interface. -/
def settings? (file : Text) (j : Json) : Except PlayerProblem SettingChoices := do
  match ← object? file j "ui" "ui" with
  | none => return {}
  | some ui =>
    let titleMenu ← menu? file ui "titleMenu"
    let pauseMenu ← menu? file ui "pauseMenu"
    let slots ← positive? file ui "slots"
    let itemsPerPage ← positive? file ui "inventoryItemsPerPage"
    let notifySeconds ← positive? file ui "notifySeconds"
    let mapPointRadius ← positive? file ui "mapPointRadius"
    return { titleMenu, pauseMenu, slots, itemsPerPage, notifySeconds, mapPointRadius }

/-- What a project says about the parts of the interface. -/
def features? (file : Text) (j : Json) : Except PlayerProblem FeatureChoices := do
  match ← object? file j "features" "features" with
  | none => return {}
  | some features =>
    let items ← bool? file features "items"
    let hud ← bool? file features "hud"
    return { items, hud }

/-- What the project file holds; a project without one says nothing. -/
def content (files : FileTree) (file : Text) : Except PlayerProblem Json :=
  if !files.pathExists file then .ok (.obj [])
  else
    match (files.read file).toOption.bind Json.parse? with
    | none => invalid file ["not valid JSON (", omittedDetail, ")."]
    | some (.obj fields) => .ok (.obj fields)
    | some _ => invalid file ["top level must be an object."]

/-! ## 2. Loading -/

/-- The project in a directory. -/
def ofDirectory (files : FileTree) (directory : Text) : Except PlayerProblem Project := do
  let root := Path.absolute directory
  if !files.isDirectory root then throw (.projectNotFound root)
  let file := Path.join [root, fileName]
  let config ← content files file
  let entry := Path.resolve root ((← text? file config "entry").getD "main.vn")
  if !files.pathExists entry then throw (.entryNotFound entry)
  let title := (← text? file config "name").getD (Path.lastName root)
  let saves := (← text? file config "saves").getD "saves/quick.json"
  let settings ← settings? file config
  let features ← features? file config
  return { root, title, entry, savePath := Path.resolve root saves, settings, features }

/-- The directory of the example projects, in the directory of the package. The player itself stands
in the root directory, so the way up from there to a package ends at once. -/
def examplesRoot (files : FileTree) : Except PlayerProblem Text :=
  if files.pathExists "/package.json" then .ok (Path.join [Path.root, "examples", "projects"])
  else .error .noPackageRoot

/-- The example project of a name. -/
def ofExample (files : FileTree) (id : Text) : Except PlayerProblem Project := do
  let directory := Path.join [← examplesRoot files, id]
  if !files.pathExists (Path.join [directory, fileName]) then throw (.exampleNotFound id)
  ofDirectory files directory

/-- The project of a source. -/
def load (files : FileTree) : ProjectSource → Except PlayerProblem Project
  | .directory path => ofDirectory files path
  | .example id => ofExample files id

/-- The name and title of an example project. -/
structure Summary where
  id : Text
  title : Text
  deriving DecidableEq, Repr, Inhabited

/-- The example projects in the order of their names. -/
def examples (files : FileTree) : Except Failure (List Summary) := do
  let fault := fun {α : Type} (e : Except PlayerProblem α) => e.mapError Failure.player
  let root ← fault (examplesRoot files)
  if !files.pathExists root then return []
  let names ← (files.children root).mapError Failure.file
  let isProject := fun (name : Text) =>
    files.isDirectory (Path.join [root, name]) &&
      files.pathExists (Path.join [root, name, fileName])
  let ids := (names.filter isProject).mergeSort fun a b => decide (a ≤ b)
  ids.mapM fun id => return ⟨id, (← fault (ofExample files id)).title⟩

/-! ## 3. Playing -/

/-- A launch of the project over some files. -/
def launch (project : Project) (files : FileTree) : Launch Float :=
  { setup :=
      { root := project.root
        savePath := project.savePath
        assetRoot := project.root
        settings := project.settings.resolve
        features := project.features.resolve }
    files
    script := project.entry }

/-- Plays the project from its beginning to the first boundary. -/
def start (project : Project) (files : FileTree) : Launched Float Boundary :=
  (project.launch files).after do
    let _ ← Action.run
    Action.playToBoundary

/-- Plays the project from a snapshot to the next boundary. -/
def resume (project : Project) (files : FileTree) (data : Snapshot Float) :
    Launched Float Boundary :=
  (project.launch files).after do
    Action.resume data
    Action.playToBoundary

end Project
end VisualNovel
