import VisualNovel.Fault.Basic
import VisualNovel.Script.Library
import VisualNovel.Story.Menu
import VisualNovel.Story.Snapshot.Store

/-!
A game: a story that is played.

A game holds the state of the story together with all that the story can touch: the library of
scripts, the files, the menu, the clock, and the lists of requests and log records so far. An action
changes a game and may fail; a failed action keeps what it had changed before it failed. `status`
says what the game is waiting for, if anything.
-/

namespace VisualNovel

/-- What does not change while a game is played. -/
structure Setup (τ : Type) where
  /-- The directory of the project. -/
  root : Text
  /-- The file of the quick save. -/
  savePath : Text
  assetRoot : Text
  settings : Settings := Settings.default
  features : Features := {}
  screen : Screen := {}
  /-- How large the picture at a path is; nothing for one that cannot be loaded. -/
  picture : Text → Option Surface := fun _ => some ⟨0.0, 0.0⟩
  videoPlayer : Option (VideoPlayer τ) := none

/-- A story that is played. -/
structure Game (τ : Type) where
  setup : Setup τ
  /-- The program that is played. -/
  program : Program
  /-- The program that a new game begins with. -/
  entry : Program
  state : State τ
  menu : Option Menu := none
  quitRequested : Bool := false
  now : τ
  voicePlaying : Bool := false
  library : Library
  files : FileTree
  requests : Array AssetRequest := #[]
  logs : Array LogRecord := #[]

/-- What a game is waiting for. -/
inductive Status where
  | titleMenu
  | pauseMenu
  | mapOverlay
  | waitingChoice
  | waitingInput
  | waitingTimer
  | waitingVoice
  | waitingVideo
  | dialogue
  | phone
  | running
  | ended
  deriving DecidableEq, Repr, Inhabited

/-- The word for a status. -/
def Status.word : Status → Text
  | .titleMenu => "titleMenu"
  | .pauseMenu => "pauseMenu"
  | .mapOverlay => "mapOverlay"
  | .waitingChoice => "waitingChoice"
  | .waitingInput => "waitingInput"
  | .waitingTimer => "waitingTimer"
  | .waitingVoice => "waitingVoice"
  | .waitingVideo => "waitingVideo"
  | .dialogue => "dialogue"
  | .phone => "phone"
  | .running => "running"
  | .ended => "ended"

namespace Status

variable {τ : Type}

/-- The status while a menu is open. -/
def ofMenu (menu : Menu) : Status :=
  match menu.kind with
  | .title => .titleMenu
  | .pause => .pauseMenu

/-- The status while the story waits by itself. -/
def ofWait : Wait τ → Status
  | .timer _ => .waitingTimer
  | .voice => .waitingVoice
  | .video => .waitingVideo

/-- The status of a state over a program of some length: the first thing that is in the way, in a
fixed order. -/
def ofState (s : State τ) (length : Nat) : Status :=
  if s.map.active then .mapOverlay
  else if s.choice.isSome then .waitingChoice
  else if s.question.isSome then .waitingInput
  else if s.phone.unread then .phone
  else
    match s.wait with
    | some wait => ofWait wait
    | none =>
      if s.dialogue.isSome then .dialogue
      else if s.index.reaches length then .ended
      else .running

end Status

/-- What a game is waiting for. A menu is before everything else. -/
def Game.status {τ : Type} (game : Game τ) : Status :=
  match game.menu with
  | some menu => Status.ofMenu menu
  | none => Status.ofState game.state game.program.commands.size

/-- Changes a game, and may fail. -/
abbrev Action (τ : Type) := EStateM Failure (Game τ)

namespace Action

variable {τ : Type}

/-- A fault in play. -/
def fail {α : Type} (problem : PlayProblem) : Action τ α := throw (Failure.play problem)

/-- Lets a fault be handled, unless it stands for an endless loop. -/
def passOn (fault : Fault) : Action τ Unit :=
  if fault.isEndless then throw (.fault fault) else pure ()

/-- Changes the state of the story. -/
def change (f : State τ → State τ) : Action τ Unit :=
  modify fun game => { game with state := f game.state }

/-- Adds log records. -/
def logAll (records : List LogRecord) : Action τ Unit :=
  modify fun game => { game with logs := game.logs ++ records.toArray }

/-- Adds a log record of the engine. -/
def log (level : LogLevel) (message : Text) : Action τ Unit :=
  modify fun game => { game with logs := game.logs.push ⟨level, "runtime", message⟩ }

/-- Sends a request to the store of assets. -/
def request (r : AssetRequest) : Action τ Unit :=
  modify fun game => { game with requests := game.requests.push r }

/-- Opens, changes or closes the menu. -/
def setMenu (menu : Option Menu) : Action τ Unit := modify fun game => { game with menu }

/-- The state of the story. -/
def state : Action τ (State τ) := return (← get).state

/-- Closes the video, if one plays. -/
def closeVideo : Action τ Unit := do
  match (← state).video with
  | none => return
  | some video =>
    request (.closeVideo video.playback.path video.playback.opening)
    change fun s => { s with video := none }

/-- Opens the inventory, or closes it. -/
def toggleInventory : Action τ Unit :=
  change fun s => { s with inventoryOpen := !s.inventoryOpen }

/-- Goes to the command of a label. The name of the inventory opens or closes it instead. -/
def jump (target : Text) : Action τ Unit := do
  let name := stripRootMark target
  let game ← get
  if name = inventoryToggle then
    if game.setup.features.items then toggleInventory
  else
    match game.program.labels.get? name with
    | some index => change fun s => { s with index := .nth index }
    | none =>
      log .error <|
        ScriptProblem.sentence ["unknown label ", inQuotes name, " in ", game.program.script]
      fail (.unknownLabel name)

/-- Takes an option of the choice, or a point of the map. The choice or the map is closed before the
jump. -/
def choose (pick : Ordinal) : Action τ Unit := do
  let s ← state
  match s.choice with
  | some choice =>
    match pick.get? choice.options with
    | none => fail (.choiceIndex pick.text)
    | some option =>
      change fun s => { s with choice := none }
      jump option.target
  | none =>
    if s.map.active then
      match pick.get? s.map.points.toList with
      | none => fail (.mapPointIndex pick.text)
      | some point =>
        change fun s => { s with map := { s.map with active := false } }
        jump point.target
    else fail .noPendingChoice

/-- Answers the question with a text, or with what has been typed. An empty answer stands for the
default. -/
def submit (text : Option Text) : Action τ Unit := do
  match (← state).question with
  | none => fail .noPendingInput
  | some question =>
    let typed := text.getD question.buffer
    let answer := if typed.isEmpty then question.default.getD [] else typed
    change fun s => { s.setVariable question.name (.str answer) with question := none }

/-- Dismisses the line or message that is shown, and says whether there was one. -/
def advance : Action τ Bool := do
  let (dismissed, after) := (← state).dismiss
  change fun _ => after
  return dismissed

/-- Turns pages of the inventory, and gives the page. -/
def scroll (delta : Float) : Action τ Float := do
  let perPage := (← get).setup.settings.itemsPerPage
  change fun s => s.scroll perPage delta
  return (← state).inventoryPage

/-- Opens the pause menu, if no menu is open and the project has one. -/
def openPauseMenu : Action τ Bool := do
  let game ← get
  if game.menu.isSome || !game.setup.settings.pauseMenu.enabled then return false
  setMenu (some { kind := .pause })
  return true

/-- Begins a new game with the first program. -/
def restart : Action τ Unit := do
  closeVideo
  modify fun game =>
    { game with
      program := game.entry
      state := ({} : State τ).introduceAll game.entry
      menu := none }

end Action
end VisualNovel
