import VisualNovel.Script.Command.Json
import VisualNovel.Story.State

/-!
States in JSON, for tools that watch a story.

A state is shown by the fields in which it differs from the state of a new story. Tables keep their
order: those whose values know their names are lists of values, the others lists of pairs.
-/

namespace VisualNovel

/-- Something that can be drawn, by its size. -/
def Surface.toJson (s : Surface) : Json :=
  .record [("width", .num s.width), ("height", .num s.height)]

namespace StateJson

/-- A transition that has begun. -/
def transition (t : Transition Float) : Json :=
  .record [("style", .str t.style.word), ("seconds", .num t.seconds), ("startedMs", .num t.started)]

/-- A background. -/
def background (b : Background Float) : Json :=
  .record ([("kind", .str b.kind.word), ("value", .str b.value)] ++
    CommandJson.floatFields b.floating ++
    Json.given "transition" (b.transition.map transition))

/-- A sprite. -/
def sprite (s : Sprite Float) : Json :=
  .record ([("id", .str s.id), ("kind", .str s.kind.word), ("value", .str s.value)] ++
    Json.givenText "anchor" s.anchor ++ [("z", .num s.z), ("pos", .ofPoint s.pos)] ++
    Json.givenPoint "size" s.size ++ [("alpha", .num s.alpha)] ++
    CommandJson.floatFields s.floating ++
    Json.given "transition" (s.transition.map transition) ++
    (if s.leaving then [("leaving", .bool true)] else []))

/-- A list of numbers. -/
def numbers (xs : List Float) : Json := .arr (xs.map .num)

/-- A movement. -/
def track (t : Track Float) : Json :=
  .record [("action", .str t.action.word), ("startMs", .num t.start),
    ("durationMs", .num t.duration),
    ("ease", .str t.ease.word), ("from", numbers t.source), ("to", numbers t.goal)]

/-- The movements of one sprite. -/
def tracks (t : Tracks Float) : Json :=
  .record (Json.given "move" (t.move.map track) ++ Json.given "size" (t.size.map track) ++
    Json.given "alpha" (t.alpha.map track))

/-- A line of dialogue. -/
def dialogue (d : Dialogue) : Json :=
  .record (Json.givenText "speaker" d.speaker ++ Json.givenText "name" d.name ++
    Json.givenText "color" d.color ++ [("text", .str d.text)])

/-- A choice. -/
def choice (c : Choice Float) : Json :=
  .record ([("prompt", .str c.prompt), ("options", .arr (c.options.map CommandJson.option)),
    ("selected", .num c.selected.number)] ++ Json.givenNum "timeoutMs" c.timeout ++
    Json.givenNum "timeoutDefault" (c.timeoutDefault.map (·.number)) ++
    [("startedMs", .num c.started)])

/-- A question. -/
def question (q : Question) : Json :=
  .record ([("variable", .str q.name), ("prompt", .str q.prompt)] ++
    Json.givenText "defaultValue" q.default ++ [("buffer", .str q.buffer)])

/-- What the story waits for by itself. -/
def wait : Wait Float → Json
  | .timer due => .record [("type", .str "timer"), ("untilMs", .num due)]
  | .voice => .record [("type", .str "voice")]
  | .video => .record [("type", .str "video")]

/-- Something in the inventory. -/
def item (i : Item) : Json :=
  .record ([("name", .str i.name), ("description", .str i.description)] ++
    Json.givenText "icon" i.icon ++ [("count", .num i.count)])

/-- A meter. -/
def meter (m : Meter) : Json :=
  .record ([("label", .str m.label), ("min", .num m.min), ("max", .num m.max),
    ("value", .num m.value)] ++ Json.givenText "color" m.color)

/-- The area of a hotspot. -/
def shape : HotspotShape → Json
  | .rect area => .record [("type", .str "rect"), ("rect", .ofRect area)]
  | .polygon corners => .record [("type", .str "poly"), ("points", .ofPoints corners)]

/-- A hotspot. -/
def hotspot (h : Hotspot) : Json :=
  .record [("name", .str h.name), ("shape", shape h.shape), ("target", .str h.target)]

/-- A point of a map. -/
def mapPoint (p : MapPoint) : Json :=
  .record [("label", .str p.label), ("target", .str p.target), ("pos", .ofPoint p.pos),
    ("points", .ofPoints p.corners)]

/-- The map. -/
def mapOverlay (m : MapOverlay) : Json :=
  .record ([("active", .bool m.active)] ++ Json.givenText "image" m.image ++
    [("points", .arr (m.points.toList.map mapPoint))])

/-- The camera. -/
def camera (c : Camera) : Json :=
  .record [("panX", .num c.panX), ("panY", .num c.panY), ("zoom", .num c.zoom)]

/-- The phone. -/
def phone (p : Phone) : Json :=
  .record [("active", .bool p.active), ("contact", .str p.contact),
    ("messages", .arr (p.messages.toList.map PhoneMessage.toJson)),
    ("awaitingAdvance", .bool p.unread)]

/-- The music. -/
def music (m : Music) : Json :=
  .record [("channel", .str m.channel), ("path", .str m.path), ("loop", .bool m.loop)]

/-- A notice. -/
def notification (n : Notification Float) : Json :=
  .record [("message", .str n.message), ("untilMs", .num n.due)]

/-- The video. -/
def video (v : Video Float) : Json :=
  .record [("path", .str v.path), ("loop", .bool v.loop), ("fit", .str v.fit.word),
    ("frame", Json.orNull (v.picture.map Surface.toJson))]

/-- A table as a list of pairs. -/
def keyed {α : Type} (f : α → Json) (t : Table α) : Json :=
  .arr (t.entries.map fun (k, v) => .arr [.str k, f v])

/-- A table as the list of its values. -/
def valued {α : Type} (f : α → Json) (t : Table α) : Json := .arr (t.values.map f)

/-- The variables. -/
def vars (t : Variables) : Json := .obj (t.entries.map fun (k, v) => (k, .ofValue v))

/-- A thing that may be missing. -/
def maybe {α : Type} (f : α → Json) (x : Option α) : Json := Json.orNull (x.map f)

/-- The fields of a state, apart from the number of the next command. -/
def fields (s : State Float) : List (String × Json) :=
  [("vars", vars s.vars), ("background", background s.background),
    ("sprites", valued sprite s.sprites),
    ("tracks", keyed tracks s.tracks),
    ("characters", valued (fun c => .record (CommandJson.characterFields c)) s.characters),
    ("dialogue", maybe dialogue s.dialogue), ("choice", maybe choice s.choice),
    ("input", maybe question s.question), ("wait", maybe wait s.wait),
    ("inventory", keyed item s.inventory), ("inventoryPage", .num s.inventoryPage),
    ("inventoryOpen", .bool s.inventoryOpen), ("meters", keyed meter s.meters),
    ("hud", valued (fun b => .record (CommandJson.buttonFields b)) s.hud),
    ("hotspots", valued hotspot s.hotspots),
    ("hotspotDebug", .bool s.hotspotDebug), ("map", mapOverlay s.map), ("camera", camera s.camera),
    ("phone", phone s.phone), ("music", maybe music s.music), ("echo", .ofText? s.echo),
    ("notification", maybe notification s.notification), ("blend", maybe transition s.blend),
    ("loading", .ofText? s.loading), ("video", maybe video s.video)]

end StateJson

/-- A state in JSON: the number of the next command, and the fields that differ from those of a new
story. -/
def State.toJson (s : State Float) : Json :=
  let pairs := (StateJson.fields s).zip (StateJson.fields {})
  let changed := pairs.filter fun (here, fresh) => here.2.compact ≠ fresh.2.compact
  .record (("index", .num s.index.number) :: changed.map (·.1))

end VisualNovel
