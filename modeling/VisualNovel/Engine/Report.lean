import VisualNovel.Engine.Boundary
import VisualNovel.Engine.Launch
import VisualNovel.Story.State.Json

/-!
Reports: a game in JSON, for tools that drive it step by step.

A report says what the game waits for, what its clock shows, what is on the stage, and what was
requested and logged since the report before it.
-/

namespace VisualNovel

/-- The arguments of a request. -/
def AssetRequest.args : AssetRequest → List Json
  | .loadImage path kind | .pinImage path kind | .unpinImage path kind | .preloadImage path kind =>
    [.str path, .str kind]
  | .makeColorSurface color size | .makeRectSurface color size => [.str color, .ofPoint size]
  | .playMusic path loop | .openVideo path loop => [.str path, .bool loop]
  | .playSound path | .playEcho path | .playVoice path | .mute path | .pinSound path
  | .unpinSound path | .preloadSound path | .closeVideo path _ => [.str path]
  | .lookVideo opening => [.ofNat opening]
  | .pruneImages keep | .pruneSounds keep => [.ofTexts keep]
  | .stopEcho | .clearImages | .clearSounds | .clearAll => []

/-- Whether a request is reported. A video is looked at in every frame, which is no news. -/
def AssetRequest.isNews : AssetRequest → Bool
  | .lookVideo _ => false
  | _ => true

/-- A request as a list of its name and its arguments. -/
def AssetRequest.toJson (r : AssetRequest) : Json := .arr (.str r.name :: r.args)

/-- An open menu. -/
def Menu.toJson (m : Menu) : Json :=
  .record [("kind", .str m.kind.word), ("mode", .str m.page.word),
    ("selected", .num m.selected.number)]

/-- An entry of a menu. -/
def MenuButton.toJson (b : MenuButton) : Json :=
  .record [("label", .str b.label), ("action", .str b.action)]

/-- A log record as a list. -/
def LogRecord.toJson (r : LogRecord) : Json :=
  .arr [.str r.level.name, .str r.scope, .str r.message]

/-- The log records as a field, left out when there are none. -/
def LogRecord.field (logs : List LogRecord) : List (String × Json) :=
  if logs.isEmpty then [] else [("logs", .arr (logs.map LogRecord.toJson))]

/-- A place in a source. -/
def Place.toJson (p : Place) : Json :=
  .record [("line", .ofNat p.line), ("column", .ofNat p.column)]

/-- A stretch of a source. -/
def Span.toJson (s : Span) : Json :=
  .record [("start", s.first.toJson), ("end", s.behind.toJson)]

/-- The fields of a failure: its code and wording, and for a fault the place. -/
def Failure.fields : Failure → List (String × Json)
  | .fault f =>
    [("error", .str f.cause.code), ("message", .str f.cause.message)] ++
      Json.given "span" (f.span.map Span.toJson) ++ Json.givenText "file" f.file ++
      [("at", .str f.location)]
  | .file e => [("error", .str e.code), ("message", .str e.code)]
  | .noCommand => [("error", .str "TypeError")]

/-- An option that the player has. -/
def BoundaryChoice.toJson (c : BoundaryChoice) : Json :=
  .record [("index", .num c.index.number), ("text", .str c.text)]

/-- A boundary. -/
def Boundary.toJson (b : Boundary) : Json :=
  .record [("event", .str b.event.word), ("texts", .ofTexts b.texts),
    ("choices", .arr (b.choices.map BoundaryChoice.toJson)),
    ("choicePromptText", .ofText? b.choicePrompt), ("inputPromptText", .ofText? b.inputPrompt),
    ("inputDefaultText", .ofText? b.inputDefault)]

/-- The fields of the report of a game. -/
def Game.report (game : Game Float) : List (String × Json) :=
  let calls := (game.requests.toList.filter (·.isNews)).map AssetRequest.toJson
  [("status", .str game.status.word), ("now", .num game.now)] ++
    Json.given "menu" (game.menu.map Menu.toJson) ++
    (if game.quitRequested then [("quit", .bool true)] else []) ++
    (if game.program.script = game.entry.script then []
      else [("script", .str game.program.script)]) ++
    [("state", game.state.toJson)] ++ (if calls.isEmpty then [] else [("calls", .arr calls)]) ++
    LogRecord.field game.logs.toList

/-- The game with its requests and log records taken away, after they were reported. -/
def Game.reported {τ : Type} (game : Game τ) : Game τ := { game with requests := #[], logs := #[] }

end VisualNovel
