import VisualNovel.Json.Basic
import VisualNovel.Path
import VisualNovel.Stage.Assets
import VisualNovel.Stage.Scene

/-!
The state of a story.

A state says which command comes next, what the variables hold, what is on the stage, and what the
story waits for. The small operations on it stand here; which of them a command or an event takes is
decided by the engine.
-/

namespace VisualNovel

/-! ## 1. Parts of a state -/

/-- A line of dialogue. -/
structure Dialogue where
  speaker : Option Text := none
  /-- The name that is shown for the speaker. -/
  name : Option Text := none
  color : Option Text := none
  text : Text
  deriving DecidableEq, Repr, Inhabited

/-- A choice that waits for the player. -/
structure Choice (τ : Type) where
  prompt : Text
  options : List ChoiceOption
  selected : Ordinal := .nth 0
  /-- After how many milliseconds an option is taken by itself. -/
  timeout : Option Float := none
  /-- The option taken then, counted from one. -/
  timeoutDefault : Option Ordinal := none
  started : τ
  deriving DecidableEq, Repr, Inhabited

/-- A question that waits for a text. -/
structure Question where
  /-- The variable that gets the answer. -/
  name : Text
  prompt : Text
  default : Option Text := none
  buffer : Text := []
  deriving DecidableEq, Repr, Inhabited

/-- What the story waits for by itself. -/
inductive Wait (τ : Type) where
  | timer (due : τ)
  | voice
  | video
  deriving DecidableEq, Repr, Inhabited

/-- Something in the inventory. -/
structure Item where
  name : Text
  description : Text
  icon : Option Text := none
  count : Float
  deriving DecidableEq, Repr, Inhabited

/-- A meter that shows a variable. -/
structure Meter where
  label : Text
  min : Float
  max : Float
  value : Float
  color : Option Text := none
  deriving DecidableEq, Repr, Inhabited

/-- A point of a map. -/
structure MapPoint where
  label : Text
  target : Text
  pos : Point
  /-- The corners of its area; with fewer than three the distance to the point counts. -/
  corners : List Point := []
  deriving DecidableEq, Repr, Inhabited

/-- The map over the stage. -/
structure MapOverlay where
  active : Bool := false
  image : Option Text := none
  points : Array MapPoint := #[]
  deriving DecidableEq, Repr, Inhabited

/-- An area of the stage that can be clicked. -/
structure Hotspot where
  name : Text
  shape : HotspotShape
  target : Text
  deriving DecidableEq, Repr, Inhabited

/-- A field of a message where messages are written down. -/
inductive MessageField where
  | side
  | text
  /-- A field that means nothing here. It is kept for whoever wrote it. -/
  | other (name : Text) (value : Json)
  deriving DecidableEq, Repr, Inhabited

/-- A message on the phone. -/
structure PhoneMessage where
  side : Side
  text : Text
  /-- The fields of the message in the order in which they are written. -/
  layout : List MessageField := [.side, .text]
  deriving DecidableEq, Repr, Inhabited

/-- The phone. -/
structure Phone where
  active : Bool := false
  contact : Text := []
  messages : Array PhoneMessage := #[]
  /-- Whether the newest message has not been read. -/
  unread : Bool := false
  deriving DecidableEq, Repr, Inhabited

/-- A short notice on the screen. -/
structure Notification (τ : Type) where
  message : Text
  due : τ
  deriving DecidableEq, Repr, Inhabited

/-- The music that plays. -/
structure Music where
  channel : Text
  path : Text
  loop : Bool
  deriving DecidableEq, Repr, Inhabited

/-- The video that plays. -/
structure Video (τ : Type) where
  path : Text
  loop : Bool
  fit : VideoFit
  playback : Playback τ
  picture : Option Surface
  deriving DecidableEq, Repr, Inhabited

/-- The channel of music that names none. -/
def musicChannel : Text := "music"

namespace Wait

variable {τ : Type}

/-- The wait with its moment changed. -/
def mapTime {σ : Type} (f : τ → σ) : Wait τ → Wait σ
  | .timer due => .timer (f due)
  | .voice => .voice
  | .video => .video

end Wait

/-- The choice with its moment changed. -/
def Choice.mapTime {τ σ : Type} (f : τ → σ) (c : Choice τ) : Choice σ :=
  { c with started := f c.started }

/-- A field of a message with its name. -/
def PhoneMessage.field (m : PhoneMessage) : MessageField → Text × Json
  | .side => ("side", .str m.side.word)
  | .text => ("text", .str m.text)
  | .other name value => (name, value)

/-- A message in JSON. -/
def PhoneMessage.toJson (m : PhoneMessage) : Json := .obj (m.layout.map m.field)

/-- The field that stands under a name. -/
def MessageField.ofField (f : Text × Json) : MessageField :=
  if f.1 = Text.ofString "side" then .side
  else if f.1 = Text.ofString "text" then .text
  else .other f.1 f.2

/-- The area of a hotspot and a point of the world. -/
def HotspotShape.holds (shape : HotspotShape) (p : Point) : Bool :=
  match shape with
  | .rect area => area.holds p
  | .polygon corners => Polygon.holds corners p

/-- Whether a click at a point of the screen means a point of a map. -/
def MapPoint.holds (point : MapPoint) (radius : Float) (click : Point) : Bool :=
  if 3 ≤ point.corners.length then Polygon.holds point.corners click
  else decide (click.distance point.pos ≤ radius)

/-- The line of a speaker, who may be a known character. One who is not known is called by the name
that the script uses. -/
def Dialogue.spoken (speaker : Option Text) (character : Option Character) (text : Text) :
    Dialogue :=
  { speaker
    name := (character.bind (·.displayName)).or speaker
    color := character.bind (·.color)
    text }

/-- The picture of a character: the one for an expression if there is one, and the default picture
otherwise. -/
def Character.picture? (c : Character) (expression : Option Text) : Option Text :=
  (expression.bind c.sprites.get?).or (c.sprites.get? "default")

/-! ## 2. The state -/

/-- The state of a story. -/
structure State (τ : Type) where
  /-- The number of the next command. -/
  index : Ordinal := .nth 0
  vars : Variables := {}
  background : Background τ := {}
  sprites : Table (Sprite τ) := {}
  tracks : Table (Tracks τ) := {}
  characters : Table Character := {}
  dialogue : Option Dialogue := none
  choice : Option (Choice τ) := none
  question : Option Question := none
  wait : Option (Wait τ) := none
  inventory : Table Item := {}
  inventoryPage : Float := 0.0
  inventoryOpen : Bool := false
  meters : Table Meter := {}
  hud : Table HudButton := {}
  hotspots : Table Hotspot := {}
  hotspotDebug : Bool := false
  map : MapOverlay := {}
  camera : Camera := {}
  phone : Phone := {}
  music : Option Music := none
  echo : Option Text := none
  notification : Option (Notification τ) := none
  blend : Option (Blend τ) := none
  loading : Option Text := none
  video : Option (Video τ) := none
  deriving Repr, Inhabited

namespace State

variable {τ : Type}

/-! ## 3. Sprites -/

/-- Takes a sprite and its tracks away. -/
def removeSprite (s : State τ) (id : Text) : State τ :=
  { s with sprites := s.sprites.erase id, tracks := s.tracks.erase id }

/-- Takes all sprites and tracks away. -/
def clearSprites (s : State τ) : State τ := { s with sprites := {}, tracks := {} }

/-- Where a sprite goes: where the command says, else by its anchor, else where it was. -/
def placeOf (sprite : Sprite τ) (pos : Option Point) (existing : Option (Sprite τ))
    (screen : Screen) : Point :=
  match pos, sprite.anchor, existing with
  | some p, _, _ => p
  | none, none, some old => old.pos
  | none, anchor, _ => anchorPosition anchor sprite.extent screen

/-- Puts a sprite on the stage. It keeps the alpha value of a sprite of the same name. -/
def placeSprite (s : State τ) (screen : Screen) (sprite : Sprite τ) (pos : Option Point) :
    State τ :=
  let existing := s.sprites.get? sprite.id
  let placed :=
    { sprite with
      pos := placeOf sprite pos existing screen
      alpha := (existing.map (·.alpha)).getD 255.0 }
  { s with sprites := s.sprites.set sprite.id placed }

/-- Lets a sprite leave, at once or with a transition that takes time. -/
def hideSprite (s : State τ) (name : Text) (transition : Option (Transition τ)) : State τ :=
  match transition with
  | some t =>
    if 0.0 < t.seconds then
      { s with
        sprites := s.sprites.modify name fun sprite =>
          { sprite with transition := some t, leaving := true } }
    else s.removeSprite name
  | none => s.removeSprite name

/-- Begins a movement of a sprite. One that takes no time is done at once. -/
def animate (s : State τ) (name : Text) (sprite : Sprite τ) (goal : AnimationGoal)
    (seconds : Float) (ease : Ease) (now : τ) : State τ :=
  let action := goal.action
  let tracks := (s.tracks.get? name).getD {}
  let duration := seconds * 1000.0
  if duration ≤ 0.0 then
    { s with
      sprites := s.sprites.set name (sprite.put action goal.numbers)
      tracks := s.tracks.set name (tracks.put action none) }
  else
    let track : Track τ :=
      { action, start := now, duration, ease, source := sprite.numbers action,
        goal := goal.numbers }
    { s with tracks := s.tracks.set name (tracks.put action (some track)) }

/-! ## 4. Variables and meters -/

/-- The value that a meter shows: that of its variable, moved into its range, and its least value
for a variable without a numeric view. -/
def meterValue (s : State τ) (name : Text) (min max : Float) : Float :=
  Number.clamp (((s.vars.get? name).bind Value.number?).getD min) min max

/-- Lets the meter of a variable show its value. -/
def refreshMeter (s : State τ) (name : Text) : State τ :=
  { s with
    meters := s.meters.modify name fun m => { m with value := s.meterValue name m.min m.max } }

/-- Sets a variable, and lets its meter show the value. -/
def setVariable (s : State τ) (name : Text) (value : Value) : State τ :=
  { s with vars := s.vars.set name value }.refreshMeter name

/-! ## 5. Inventory -/

/-- The number of pages of the inventory, at least one. -/
def pageCount (s : State τ) (itemsPerPage : Float) : Float :=
  Number.maximum 1.0 (Number.ceil (Float.ofNat s.inventory.size / itemsPerPage))

/-- Turns pages of the inventory, not past the first and the last. -/
def scroll (s : State τ) (itemsPerPage delta : Float) : State τ :=
  { s with
    inventoryPage := Number.clamp (s.inventoryPage + delta) 0.0 (s.pageCount itemsPerPage - 1.0) }

/-- Puts items into the inventory; of a kind that is there the count grows. -/
def addItem (s : State τ) (id : Text) (item : Item) : State τ :=
  { s with
    inventory :=
      match s.inventory.get? id with
      | some old => s.inventory.set id { old with count := old.count + item.count }
      | none => s.inventory.set id item }

/-- Takes items out of the inventory; a kind of which none are left goes away. -/
def takeItem (s : State τ) (id : Text) (amount : Float) : State τ :=
  match s.inventory.get? id with
  | none => s
  | some old =>
    let count := old.count - amount
    { s with
      inventory :=
        if count ≤ 0.0 then s.inventory.erase id else s.inventory.set id { old with count } }

/-! ## 6. Characters -/

/-- Adds a character unless one of its name is known. -/
def introduce (s : State τ) (c : Character) : State τ :=
  if s.characters.contains c.ident then s
  else { s with characters := s.characters.set c.ident c }

/-- Adds the characters that a program defines and that are not known. -/
def introduceAll (s : State τ) (program : Program) : State τ :=
  program.commands.foldl (fun s command =>
    match command with
    | .define c => s.introduce c
    | _ => s) s

/-- The character of a name that a command gives; the empty name is nobody. -/
def speaker? (s : State τ) (name : Option Text) : Option Character :=
  (name.filter (!·.isEmpty)).bind s.characters.get?

/-- The path of a voice: in the folder of the speaker's tag, unless it says where it is. -/
def voicePath (s : State τ) (speaker : Option Text) (path : Text) : Text :=
  match (s.speaker? speaker).bind (·.voiceTag) with
  | some tag =>
    if tag.isEmpty || path.startsWith "." || Path.isAbsolute path then path
    else Text.join Path.root [tag, path]
  | none => path

/-! ## 7. The player's answers -/

/-- Dismisses the phone message or the line that is shown, and says whether there was one. -/
def dismiss (s : State τ) : Bool × State τ :=
  if s.phone.unread then (true, { s with phone := { s.phone with unread := false } })
  else
    match s.dialogue with
    | some _ => (true, { s with dialogue := none })
    | none => (false, s)

/-- Whether something is over the story that needs the player. -/
def isOverlaid (s : State τ) : Bool :=
  s.map.active || s.choice.isSome || s.question.isSome || s.phone.unread

/-- Ends what the passing of time ends: a timer, a notice, a blend, and sprites that leave. -/
def expire [Clock τ] (s : State τ) (now : τ) (voicePlaying : Bool) : State τ :=
  let wait :=
    match s.wait with
    | some (.timer due) => if Clock.reached now due then none else s.wait
    | some .voice => if voicePlaying then s.wait else none
    | other => other
  let notification := s.notification.filter fun n => !Clock.reached now n.due
  let blend := s.blend.filter fun b => !b.isOver now
  let gone := (s.sprites.values.filter (·.isGone now)).map (·.id)
  gone.foldl removeSprite { s with wait, notification, blend }

/-- Moves the sprites that have tracks. -/
def moveSprites [Clock τ] (s : State τ) (now : τ) : State τ :=
  let (sprites, tracks) := advanceTracks now s.sprites s.tracks
  { s with sprites, tracks }

end State
end VisualNovel
