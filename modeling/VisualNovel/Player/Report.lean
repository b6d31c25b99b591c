import VisualNovel.Engine.Orders
import VisualNovel.Player.Screen

/-!
Settings, projects and views in JSON, for tools that drive the player.
-/

namespace VisualNovel

/-- What a project says about a menu. -/
def MenuChoices.toJson (m : MenuChoices) : Json :=
  .record (Json.given "enabled" (m.enabled.map .bool) ++
    Json.given "buttons" (m.buttons.map fun bs => .arr (bs.map MenuButton.toJson)))

/-- The settings of a menu. -/
def MenuSettings.toJson (m : MenuSettings) : Json :=
  MenuChoices.toJson ⟨some m.enabled, some m.buttons⟩

/-- The settings of the interface. -/
def Settings.toJson (s : Settings) : Json :=
  .record [("titleMenu", s.titleMenu.toJson), ("pauseMenu", s.pauseMenu.toJson),
    ("slots", .num s.slots), ("inventoryItemsPerPage", .num s.itemsPerPage),
    ("notifySeconds", .num s.notifySeconds), ("mapPointRadius", .num s.mapPointRadius)]

/-- An object with the fields of another one in the place of its own. -/
def Json.overlay (base : Json) (top : Option Json) : Json :=
  let put := fun (t : Table Json) (f : Text × Json) => t.set f.1 f.2
  .obj (((top.bind fields?).getD []).foldl put ⟨base.fields?.getD []⟩).entries

/-- The settings of the interface with the choices of a tool, field by field. Fields that a menu
does not know stay in it. -/
def Settings.overlaid (choices : Json) : Json :=
  let base := Settings.default.toJson
  let menu := fun (name : String) =>
    (name, Json.overlay (Json.orNull (base.field? name)) (choices.field? name))
  let plain := fun (name : String) =>
    (name, Json.orNull ((choices.field? name).filter (· ≠ .null) |>.or (base.field? name)))
  .record [menu "titleMenu", menu "pauseMenu", plain "slots", plain "inventoryItemsPerPage",
    plain "notifySeconds", plain "mapPointRadius"]

/-- What a project says about the interface. -/
def SettingChoices.toJson (s : SettingChoices) : Json :=
  .record (Json.given "titleMenu" (s.titleMenu.map MenuChoices.toJson) ++
    Json.given "pauseMenu" (s.pauseMenu.map MenuChoices.toJson) ++ Json.givenNum "slots" s.slots ++
    Json.givenNum "inventoryItemsPerPage" s.itemsPerPage ++
    Json.givenNum "notifySeconds" s.notifySeconds ++
    Json.givenNum "mapPointRadius" s.mapPointRadius)

/-- What a project says about the parts of the interface. -/
def FeatureChoices.toJson (f : FeatureChoices) : Json :=
  .record (Json.given "items" (f.items.map .bool) ++ Json.given "hud" (f.hud.map .bool))

/-- A project. -/
def Project.toJson (p : Project) : Json :=
  .record [("id", .str p.root), ("title", .str p.title), ("root", .str p.root),
    ("entryPath", .str p.entry), ("savePath", .str p.savePath), ("ui", p.settings.toJson),
    ("features", p.features.toJson)]

/-- The name and title of an example project. -/
def Project.Summary.toJson (s : Project.Summary) : Json :=
  .record [("id", .str s.id), ("title", .str s.title)]

/-- Where a project is taken from. -/
def ProjectSource.toJson : ProjectSource → Json
  | .directory path => .record [("kind", .str "project"), ("dir", .str path)]
  | .example id => .record [("kind", .str "example"), ("id", .str id)]

/-- A view. -/
def View.toJson (v : View) : Json :=
  .record [("lines", .ofTexts v.lines), ("pending", .ofTexts v.pending),
    ("typing", .ofText? v.typing), ("typed", .ofNat v.typed),
    ("choices", .arr (v.choices.map BoundaryChoice.toJson)), ("prompt", .ofText? v.prompt),
    ("inputMode", .bool v.inputMode), ("inputDefault", .ofText? v.inputDefault),
    ("buffer", .str v.buffer), ("cursor", .ofNat v.cursor), ("scroll", .ofNat v.scroll),
    ("ended", .bool v.ended), ("hud", .ofText? v.hud), ("notice", .str v.notice)]

/-- What happens to a view. -/
def ViewAction.ofJson (j : Json) : ViewAction :=
  match (j.textOr "type").toString with
  | "boundary" =>
    .boundary (Boundary.ofJson ((j.field? "boundary").getD .null)) (j.textField? "hud")
      ((j.need "replace" Json.bool?).getD false) (j.textOr "notice")
  | "flush" => .flush
  | "move" => .move ((j.need "delta" Json.integer?).getD 0)
  | "type" => .type (j.textOr "text")
  | "erase" => .erase
  | "notice" => .notice (j.textOr "text")
  | _ => .tick

/-- A log record with its fields. -/
def LogRecord.toObject (r : LogRecord) : Json :=
  .record [("level", .str r.level.name), ("scope", .str r.scope), ("message", .str r.message)]

/-- The name of a channel of the console. -/
def ConsoleChannel.name : ConsoleChannel → Text
  | .log => "console.log"
  | .warn => "console.warn"
  | .error => "console.error"

/-- The delivery of a record: where it went, and what arrived there. -/
def Delivery.toJson : Delivery → Json
  | .listener name r => .arr [.str (Text.ofString "listener " ++ name), r.toObject]
  | .sink name r => .arr [.str (Text.ofString "sink " ++ name), r.toObject]
  | .console channel line => .arr [.str channel.name, .str line]

end VisualNovel
