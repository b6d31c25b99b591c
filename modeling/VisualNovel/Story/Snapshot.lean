import VisualNovel.Story.State

/-!
Snapshots: what of a state is saved.

A snapshot does not depend on the clock of the game it was taken from. Where a state remembers when
something began, its snapshot says how long ago that was, and where a state remembers when something
ends, how long it takes until then. Movements, the video, the notice, the blend, the loading text
and the transition of the background are not saved. `Snapshot.ofState` takes a snapshot and
`Snapshot.toState` rebuilds a state, at a moment of the clock of the game that goes on with it.
-/

namespace VisualNovel

/-- What the player or the story waits for. -/
inductive Waiting (τ : Type) where
  | wait (wait : Wait τ)
  | choice (choice : Choice τ)
  | question (question : Question)
  deriving DecidableEq, Repr, Inhabited

/-- What is saved of a line of dialogue. -/
structure SavedLine where
  speaker : Option Text
  text : Text
  deriving DecidableEq, Repr, Inhabited

/-- What is saved of a background. -/
structure SavedBackground where
  kind : SceneKind
  value : Text
  floating : Floating := {}
  deriving DecidableEq, Repr, Inhabited

/-- What is saved of a state, with durations in the place of moments. -/
structure Snapshot (τ : Type) where
  /-- The path of the script inside its project. -/
  script : Text
  index : Ordinal
  background : SavedBackground
  vars : Variables
  sprites : Table (Sprite τ)
  inventory : Table Item
  inventoryPage : Float
  inventoryOpen : Bool
  meters : Table Meter
  hud : List HudButton
  music : Option Music
  echo : Option Text
  waiting : Option (Waiting τ)
  dialogue : Option SavedLine
  characters : Table Character
  hotspots : List Hotspot
  hotspotDebug : Bool
  map : MapOverlay
  camera : Camera
  phone : Option Phone
  deriving Repr, Inhabited

/-- What is waited for, with its durations changed. -/
def Waiting.mapTime {τ σ : Type} (f : τ → σ) : Waiting τ → Waiting σ
  | .wait w => .wait (w.mapTime f)
  | .choice c => .choice (c.mapTime f)
  | .question q => .question q

/-- The snapshot with its durations changed. -/
def Snapshot.mapTime {τ σ : Type} (f : τ → σ) (data : Snapshot τ) : Snapshot σ :=
  { data with
    sprites := data.sprites.map (·.mapTime f)
    waiting := data.waiting.map (·.mapTime f) }

/-- The table as a record keeps it. -/
def Table.recorded {α : Type} (t : Table α) : Table α := ⟨t.recordEntries⟩

namespace Snapshot

variable {τ : Type} [Clock τ]

/-- What a state waits for, as seen at a moment: a choice counts before a question, and both count
before what ends by itself. -/
def waitingOf (s : State τ) (now : τ) : Option (Waiting τ) :=
  match s.choice, s.question, s.wait with
  | some choice, _, _ => some (.choice (choice.mapTime (Clock.ago now)))
  | none, some question, _ => some (.question question)
  | none, none, some wait => some (.wait (wait.mapTime (Clock.ahead now)))
  | none, none, none => none

/-- A phone that is closed and without messages is not saved. -/
def phoneOf (phone : Phone) : Option Phone :=
  if phone.active || !phone.messages.isEmpty then some phone else none

/-- The snapshot of a state at a moment. -/
def ofState (s : State τ) (script : Text) (now : τ) : Snapshot τ :=
  { script
    index := s.index
    background := ⟨s.background.kind, s.background.value, s.background.floating⟩
    vars := s.vars
    sprites := (s.sprites.map (·.mapTime (Clock.ago now))).recorded
    inventory := s.inventory.recorded
    inventoryPage := s.inventoryPage
    inventoryOpen := s.inventoryOpen
    meters := s.meters.recorded
    hud := s.hud.values
    music := s.music
    echo := s.echo
    waiting := waitingOf s now
    dialogue := s.dialogue.map fun d => ⟨d.speaker, d.text⟩
    characters := s.characters.recorded
    hotspots := s.hotspots.values
    hotspotDebug := s.hotspotDebug
    map := s.map
    camera := s.camera
    phone := phoneOf s.phone }

/-- The choice of a snapshot, with its cursor moved to an option. -/
def choiceOf (waiting : Option (Waiting τ)) (now : τ) : Option (Choice τ) :=
  match waiting with
  | some (.choice choice) =>
    let began := choice.mapTime (Clock.sub now)
    some { began with selected := choice.selected.clampTo choice.options.length }
  | _ => none

/-- The question of a snapshot. -/
def questionOf : Option (Waiting τ) → Option Question
  | some (.question question) => some question
  | _ => none

/-- What a snapshot waits for by itself. -/
def waitOf (waiting : Option (Waiting τ)) (now : τ) : Option (Wait τ) :=
  match waiting with
  | some (.wait wait) => some (wait.mapTime (Clock.add now))
  | _ => none

/-- The line of a snapshot, in the color of its speaker. -/
def dialogueOf (characters : Table Character) (line : SavedLine) : Dialogue :=
  Dialogue.spoken line.speaker (line.speaker.bind characters.get?) line.text

/-- The state of a snapshot for a game whose clock shows a moment. Sprites and characters are called
by the names that they are kept under. -/
def toState (data : Snapshot τ) (now : τ) : State τ :=
  let characters := data.characters.mapNamed fun ident character => { character with ident }
  { index := data.index
    vars := data.vars
    background :=
      { kind := data.background.kind
        value := data.background.value
        floating := data.background.floating }
    sprites := data.sprites.mapNamed fun id sprite => { sprite.mapTime (Clock.sub now) with id }
    characters
    dialogue := data.dialogue.map (dialogueOf characters)
    choice := choiceOf data.waiting now
    question := questionOf data.waiting
    wait := waitOf data.waiting now
    inventory := data.inventory
    inventoryPage := data.inventoryPage
    inventoryOpen := data.inventoryOpen
    meters := data.meters
    hud := Table.ofEntries (data.hud.map fun b => (b.name, b))
    hotspots := Table.ofEntries (data.hotspots.map fun h => (h.name, h))
    hotspotDebug := data.hotspotDebug
    map := data.map
    camera := data.camera
    phone := data.phone.getD {}
    music := data.music
    echo := data.echo }

end Snapshot
end VisualNovel
