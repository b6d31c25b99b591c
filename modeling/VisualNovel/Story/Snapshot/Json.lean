import VisualNovel.Json.Shapes
import VisualNovel.Story.Snapshot

/-!
Snapshots in JSON.

`Snapshot.toJson` writes a snapshot; the order of the fields is that of the file. `Snapshot.read?`
reads the shape of one: every field has to be there with a value of its type, apart from those that
may be left out. Fields it does not know are passed over, except that a message keeps them.
`Snapshot.ofJson?` is what a save file has to satisfy: the shape under the rules for files, the
version, a natural number for the next command, a positive zoom, and an option in every choice.
-/

namespace VisualNovel
namespace Snapshot

/-- The version of the format. -/
def version : Float := 2.0

/-! ## 1. Writing -/

/-- A table as a record; its names keep their place unless they are index numbers. -/
def tableJson {α : Type} (t : Table α) (write : α → Json) : Json :=
  .obj ((recordOrder t.entries).map fun e => (e.1, write e.2))

/-- A background. -/
def backgroundJson (b : SavedBackground) : Json :=
  .record [("kind", .str b.kind.word), ("value", .str b.value),
    ("float_amp", .ofNumber? b.floating.amplitude), ("float_speed", .ofNumber? b.floating.speed)]

/-- A transition with the time since it began. -/
def transitionJson (t : Transition Float) : Json :=
  .record [("style", .str t.style.word), ("seconds", .num t.seconds),
    ("elapsed_ms", .num t.started)]

/-- A sprite. -/
def spriteJson (s : Sprite Float) : Json :=
  .record [("kind", .str s.kind.word), ("value", .str s.value), ("anchor", .ofText? s.anchor),
    ("z", .num s.z), ("pos", .ofPoint s.pos), ("size", .orNull (s.size.map Json.ofPoint)),
    ("alpha", .num s.alpha), ("float_amp", .ofNumber? s.floating.amplitude),
    ("float_speed", .ofNumber? s.floating.speed),
    ("transition", .orNull (s.transition.map transitionJson)), ("leaving", .bool s.leaving)]

/-- Something in the inventory. -/
def itemJson (i : Item) : Json :=
  .record [("name", .str i.name), ("desc", .str i.description), ("icon", .ofText? i.icon),
    ("count", .num i.count)]

/-- A meter. -/
def meterJson (m : Meter) : Json :=
  .record [("label", .str m.label), ("min", .num m.min), ("max", .num m.max),
    ("value", .num m.value), ("color", .ofText? m.color)]

/-- A button on the screen. -/
def buttonJson (b : HudButton) : Json :=
  .record [("name", .str b.name), ("style", .str b.style.word), ("text", .ofText? b.text),
    ("icon", .ofText? b.icon), ("target", .str b.target), ("rect", Json.ofRect b.rect)]

/-- The music. -/
def musicJson (m : Music) : Json :=
  .record [("path", .str m.path), ("loop", .bool m.loop), ("channel", .str m.channel)]

/-- What is waited for. -/
def waitingJson : Waiting Float → Json
  | .choice c =>
    .record [("type", .str "choice"), ("prompt", .str c.prompt),
      ("options", .arr (c.options.map fun o => .arr [.str o.text, .str o.target])),
      ("selected", .num c.selected.number), ("timeout_ms", .ofNumber? c.timeout),
      ("timeout_default", .ofNumber? (c.timeoutDefault.map (·.number))),
      ("timeout_elapsed_ms", .num c.started)]
  | .question q =>
    .record [("type", .str "input"), ("variable", .str q.name), ("prompt", .str q.prompt),
      ("default", .ofText? q.default), ("buffer", .str q.buffer)]
  | .wait (.timer due) => .record [("type", .str "timer"), ("remaining_ms", .num due)]
  | .wait .voice => .record [("type", .str "voice")]
  | .wait .video => .record [("type", .str "video")]

/-- A line of dialogue. -/
def lineJson (l : SavedLine) : Json :=
  .record [("speaker", .ofText? l.speaker), ("text", .str l.text)]

/-- A character. -/
def characterJson (c : Character) : Json :=
  .record [("display_name", .ofText? c.displayName), ("color", .ofText? c.color),
    ("voice_tag", .ofText? c.voiceTag), ("pos", .orNull (c.pos.map Json.ofPoint)),
    ("anchor", .ofText? c.anchor), ("z", .ofNumber? c.z),
    ("float_amp", .ofNumber? c.floating.amplitude), ("float_speed", .ofNumber? c.floating.speed),
    ("sprites", tableJson c.sprites .str)]

/-- A hotspot: its rectangle or its corners. -/
def hotspotJson (h : Hotspot) : Json :=
  let (area, corners) : Json × Json :=
    match h.shape with
    | .rect area => (Json.ofRect area, .null)
    | .polygon corners => (.null, .ofPoints corners)
  .record [("name", .str h.name), ("target", .str h.target), ("rect", area), ("points", corners)]

/-- A point of a map. -/
def mapPointJson (p : MapPoint) : Json :=
  .record [("label", .str p.label), ("target", .str p.target), ("pos", .ofPoint p.pos),
    ("points", .ofPoints p.corners)]

/-- The map. -/
def mapJson (m : MapOverlay) : Json :=
  .record [("active", .bool m.active), ("image", .ofText? m.image),
    ("points", .arr (m.points.toList.map mapPointJson))]

/-- The camera. -/
def cameraJson (c : Camera) : Json :=
  .record [("pan_x", .num c.panX), ("pan_y", .num c.panY), ("zoom", .num c.zoom)]

/-- The phone. -/
def phoneJson (p : Phone) : Json :=
  .record [("active", .bool p.active), ("contact", .str p.contact),
    ("messages", .arr (p.messages.toList.map PhoneMessage.toJson)),
    ("awaiting_advance", .bool p.unread)]

/-- The fields of a snapshot, in the order of the file. -/
def fields (data : Snapshot Float) : List (String × Json) :=
  [("save_version", .num version), ("script_path", .str data.script),
    ("index", .num data.index.number), ("background", backgroundJson data.background),
    ("vars", tableJson data.vars Json.ofValue), ("sprites", tableJson data.sprites spriteJson),
    ("inventory", tableJson data.inventory itemJson), ("inventory_page", .num data.inventoryPage),
    ("inventory_open", .bool data.inventoryOpen), ("meters", tableJson data.meters meterJson),
    ("hud_buttons", .arr (data.hud.map buttonJson)), ("music", .orNull (data.music.map musicJson)),
    ("echo", .ofText? data.echo), ("waiting", .orNull (data.waiting.map waitingJson)),
    ("dialogue", .orNull (data.dialogue.map lineJson)),
    ("characters", tableJson data.characters characterJson),
    ("hotspots", .arr (data.hotspots.map hotspotJson)),
    ("hotspot_debug", .bool data.hotspotDebug), ("map", mapJson data.map),
    ("camera", cameraJson data.camera), ("phone", .orNull (data.phone.map phoneJson))]

/-- A snapshot in JSON. -/
def toJson (data : Snapshot Float) : Json := .record data.fields

/-! ## 2. Reading -/

/-- What a reader of snapshots insists on. -/
structure Rules where
  /-- The reader of numbers. -/
  number : Json → Option Float
  /-- Whether nothing may be missing: a field that can be `null` has to be there, and a hotspot has
  an area. -/
  complete : Bool

/-- The rules for save files: all numbers are finite, and nothing is missing. -/
def Rules.file : Rules := ⟨Json.finite?, true⟩

/-- The rules for a snapshot that a tool hands over. -/
def Rules.tool : Rules := ⟨Json.num?, false⟩

/-- A field that may be `null`. -/
def Rules.orNull {α : Type} (rules : Rules) (j : Json) (name : String) (read : Json → Option α) :
    Option (Option α) :=
  if rules.complete then j.needOrNull name read else j.allow name read

/-- A background. -/
def background? (rules : Rules) (j : Json) : Option SavedBackground := do
  let kind ← j.need "kind" (Json.worded? [SceneKind.color, .image] SceneKind.word)
  let value ← j.need "value" Json.text?
  let amplitude ← j.allow "float_amp" rules.number
  let speed ← j.allow "float_speed" rules.number
  return ⟨kind, value, ⟨amplitude, speed⟩⟩

/-- A transition. -/
def transition? (rules : Rules) (j : Json) : Option (Transition Float) := do
  let style ← j.need "style" (Json.worded? TransitionStyle.all TransitionStyle.word)
  let seconds ← j.need "seconds" rules.number
  let elapsed ← j.need "elapsed_ms" rules.number
  return ⟨style, seconds, elapsed⟩

/-- A sprite under its name. -/
def sprite? (rules : Rules) (id : Text) (j : Json) : Option (Sprite Float) := do
  let kind ← j.need "kind" (Json.worded? SpriteKind.all SpriteKind.word)
  let value ← j.need "value" Json.text?
  let anchor ← rules.orNull j "anchor" Json.text?
  let z ← j.need "z" rules.number
  let pos ← j.need "pos" (Json.point? rules.number)
  let size ← rules.orNull j "size" (Json.point? rules.number)
  let alpha ← j.need "alpha" rules.number
  let amplitude ← rules.orNull j "float_amp" rules.number
  let speed ← rules.orNull j "float_speed" rules.number
  let transition ← j.allow "transition" (transition? rules)
  let leaving ← j.allow "leaving" Json.bool?
  return { id, kind, value, anchor, z, pos, size, alpha, floating := ⟨amplitude, speed⟩,
           transition, leaving := leaving.getD false }

/-- Something in the inventory. -/
def item? (rules : Rules) (j : Json) : Option Item := do
  let name ← j.need "name" Json.text?
  let description ← j.need "desc" Json.text?
  let icon ← rules.orNull j "icon" Json.text?
  let count ← j.need "count" rules.number
  return ⟨name, description, icon, count⟩

/-- A meter. -/
def meter? (rules : Rules) (j : Json) : Option Meter := do
  let label ← j.need "label" Json.text?
  let min ← j.need "min" rules.number
  let max ← j.need "max" rules.number
  let value ← j.need "value" rules.number
  let color ← rules.orNull j "color" Json.text?
  return ⟨label, min, max, value, color⟩

/-- A button on the screen. -/
def button? (rules : Rules) (j : Json) : Option HudButton := do
  let name ← j.need "name" Json.text?
  let style ← j.need "style" (Json.worded? [HudStyle.text, .icon, .both] HudStyle.word)
  let text ← rules.orNull j "text" Json.text?
  let icon ← rules.orNull j "icon" Json.text?
  let target ← j.need "target" Json.text?
  let rect ← j.need "rect" (Json.rect? rules.number)
  return { name, style, text, icon, rect, target }

/-- The music. Its channel may be left out, but in a file it is not `null`. -/
def music? (rules : Rules) (j : Json) : Option Music := do
  let path ← j.need "path" Json.text?
  let loop ← j.need "loop" Json.bool?
  let channel ←
    match j.field? "channel" with
    | none => some musicChannel
    | some .null => if rules.complete then none else some musicChannel
    | some value => value.text?
  return ⟨channel, path, loop⟩

/-- An option of a choice. -/
def option? (j : Json) : Option ChoiceOption :=
  match j.list? Json.text? with
  | some [text, target] => some ⟨text, target⟩
  | _ => none

/-- A choice. -/
def choice? (rules : Rules) (j : Json) : Option (Choice Float) := do
  let prompt ← j.need "prompt" Json.text?
  let options ← j.need "options" (Json.list? option?)
  let selected ← j.need "selected" rules.number
  let timeout ← rules.orNull j "timeout_ms" rules.number
  let timeoutDefault ← rules.orNull j "timeout_default" rules.number
  let elapsed ← j.need "timeout_elapsed_ms" rules.number
  return { prompt, options, selected := Ordinal.ofNumber selected, timeout,
           timeoutDefault := timeoutDefault.map Ordinal.ofNumber, started := elapsed }

/-- A question. -/
def question? (rules : Rules) (j : Json) : Option Question := do
  let name ← j.need "variable" Json.text?
  let prompt ← j.need "prompt" Json.text?
  let default ← rules.orNull j "default" Json.text?
  let buffer ← j.need "buffer" Json.text?
  return { name, prompt, default, buffer }

/-- What is waited for. -/
def waiting? (rules : Rules) (j : Json) : Option (Waiting Float) := do
  let kind ← j.need "type" Json.text?
  if kind = Text.ofString "timer" then
    return .wait (.timer (← j.need "remaining_ms" rules.number))
  else if kind = Text.ofString "voice" then return .wait .voice
  else if kind = Text.ofString "video" then return .wait .video
  else if kind = Text.ofString "choice" then return .choice (← choice? rules j)
  else if kind = Text.ofString "input" then return .question (← question? rules j)
  else none

/-- A line of dialogue. -/
def line? (rules : Rules) (j : Json) : Option SavedLine := do
  let speaker ← rules.orNull j "speaker" Json.text?
  let text ← j.need "text" Json.text?
  return ⟨speaker, text⟩

/-- A character under its name. -/
def character? (rules : Rules) (ident : Text) (j : Json) : Option Character := do
  let displayName ← rules.orNull j "display_name" Json.text?
  let color ← rules.orNull j "color" Json.text?
  let voiceTag ← rules.orNull j "voice_tag" Json.text?
  let pos ← rules.orNull j "pos" (Json.point? rules.number)
  let anchor ← rules.orNull j "anchor" Json.text?
  let z ← rules.orNull j "z" rules.number
  let amplitude ← rules.orNull j "float_amp" rules.number
  let speed ← rules.orNull j "float_speed" rules.number
  let sprites ← j.need "sprites" (Json.table? fun _ picture => picture.text?)
  return { ident, displayName, color, voiceTag, pos, anchor, z, floating := ⟨amplitude, speed⟩,
           sprites }

/-- A hotspot. Of a rectangle and corners the rectangle counts; without an area there are no
corners. -/
def hotspot? (rules : Rules) (j : Json) : Option Hotspot := do
  let name ← j.need "name" Json.text?
  let target ← j.need "target" Json.text?
  let area ← rules.orNull j "rect" (Json.rect? rules.number)
  let corners ← rules.orNull j "points" (Json.list? (Json.point? rules.number))
  match area, corners with
  | some area, _ => return ⟨name, .rect area, target⟩
  | none, some corners => return ⟨name, .polygon corners, target⟩
  | none, none => if rules.complete then none else return ⟨name, .polygon [], target⟩

/-- A point of a map. -/
def mapPoint? (rules : Rules) (j : Json) : Option MapPoint := do
  let label ← j.need "label" Json.text?
  let target ← j.need "target" Json.text?
  let pos ← j.need "pos" (Json.point? rules.number)
  let corners ← j.need "points" (Json.list? (Json.point? rules.number))
  return ⟨label, target, pos, corners⟩

/-- The map. -/
def map? (rules : Rules) (j : Json) : Option MapOverlay := do
  let active ← j.need "active" Json.bool?
  let image ← rules.orNull j "image" Json.text?
  let points ← j.need "points" (Json.list? (mapPoint? rules))
  return ⟨active, image, points.toArray⟩

/-- The camera. -/
def camera? (rules : Rules) (j : Json) : Option Camera := do
  let panX ← j.need "pan_x" rules.number
  let panY ← j.need "pan_y" rules.number
  let zoom ← j.need "zoom" rules.number
  return ⟨panX, panY, zoom⟩

/-- A message on the phone, with all its fields. -/
def message? (j : Json) : Option PhoneMessage := do
  let side ← j.need "side" (Json.worded? [Side.left, .right] Side.word)
  let text ← j.need "text" Json.text?
  return { side, text, layout := (j.fields?.getD []).map MessageField.ofField }

/-- The phone. -/
def phone? (j : Json) : Option Phone := do
  let active ← j.need "active" Json.bool?
  let contact ← j.need "contact" Json.text?
  let messages ← j.need "messages" (Json.list? message?)
  let unread ← j.allow "awaiting_advance" Json.bool?
  return ⟨active, contact, messages.toArray, unread.getD false⟩

/-- A snapshot of the right shape. -/
def read? (rules : Rules) (j : Json) : Option (Snapshot Float) := do
  let script ← j.need "script_path" Json.text?
  let index ← j.need "index" fun i => (rules.number i).map Ordinal.ofNumber
  let background ← j.need "background" (background? rules)
  let vars ← j.need "vars" (Json.table? fun _ => Json.storyValue? rules.number)
  let sprites ← j.need "sprites" (Json.table? (sprite? rules))
  let inventory ← j.need "inventory" (Json.table? fun _ => item? rules)
  let inventoryPage ← j.need "inventory_page" rules.number
  let inventoryOpen ← j.need "inventory_open" Json.bool?
  let meters ← j.need "meters" (Json.table? fun _ => meter? rules)
  let hud ← j.need "hud_buttons" (Json.list? (button? rules))
  let music ← rules.orNull j "music" (music? rules)
  let echo ← j.allow "echo" Json.text?
  let waiting ← rules.orNull j "waiting" (waiting? rules)
  let dialogue ← j.allow "dialogue" (line? rules)
  let characters ← j.need "characters" (Json.table? (character? rules))
  let hotspots ← j.need "hotspots" (Json.list? (hotspot? rules))
  let hotspotDebug ← j.need "hotspot_debug" Json.bool?
  let map ← j.need "map" (map? rules)
  let camera ← j.need "camera" (camera? rules)
  let phone ← j.allow "phone" phone?
  return { script, index, background, vars, sprites, inventory, inventoryPage, inventoryOpen,
           meters, hud, music, echo, waiting, dialogue, characters, hotspots, hotspotDebug, map,
           camera, phone }

/-- Whether a choice that is waited for has an option. -/
def hasOptions : Option (Waiting Float) → Bool
  | some (.choice c) => !c.options.isEmpty
  | _ => true

/-- The snapshot that a save file holds. -/
def ofJson? (j : Json) : Option (Snapshot Float) := do
  let found ← j.need "save_version" Json.num?
  let data ← read? .file j
  if found == version && (Number.toNat? data.index.number).isSome && 0.0 < data.camera.zoom &&
      hasOptions data.waiting then some data
  else none

end Snapshot
end VisualNovel
