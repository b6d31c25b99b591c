import VisualNovel.Engine.Events

/-!
Frames: how a game goes on.

A frame sets the clock, hands over what the player did, lets time pass unless something is over the
story, and then does commands until the story waits for something. At most `commandLimit` commands
are done in one run.
-/

namespace VisualNovel

/-- The number of commands that one run may do. -/
def commandLimit : Nat := 10000

namespace Action

variable {τ : Type} [Clock τ]

/-- The status of the game. -/
def status : Action τ Status := return (← get).status

/-- Does the next command of a story that is running. A story that goes on from a snapshot can stand
between two commands, or before the first one; then there is no command to do. -/
def step : Action τ Unit := do
  let game ← get
  change fun s => { s with index := s.index.next }
  match game.program.commandAt? game.state.index with
  | some command => execute command
  | none => throw .noCommand

/-- Does at most so many commands, until the story waits for something. When all of them are done
the run fails. -/
def runAtMost : Nat → Action τ Status
  | 0 => fail (.guardExceeded commandLimit)
  | limit + 1 => do
    let now ← status
    if now ≠ .running then return now
    step
    runAtMost limit

/-- Does commands until the story waits for something. -/
def run : Action τ Status := runAtMost commandLimit

/-- Takes an option when the time for a choice is over. -/
def checkTimeout : Action τ Unit := do
  let game ← get
  match game.state.choice, game.menu with
  | some choice, none =>
    match choice.timeout with
    | none => return
    | some timeout =>
      if Clock.lt (Clock.sub game.now choice.started) (Clock.ofMillis timeout) then return
      let pick := (choice.timeoutDefault.getD (.nth 1)).prior.clampTo choice.options.length
      log .debug (Text.ofString "choice timed out; taking option " ++ pick.next.text)
      choose pick
  | _, _ => return

/-- Lets time pass: what is over ends, sprites move, and the video goes on. -/
def passTime : Action τ Unit := do
  let game ← get
  change fun s => (s.expire game.now game.voicePlaying).moveSprites game.now
  updateVideo
  let s ← state
  if s.wait.any (fun wait => Status.ofWait wait = .waitingVideo) && s.video.isNone then
    change fun s => { s with wait := none }

/-- One frame: what the player did, and the clock. -/
def frame (events : List Event) (now : τ) : Action τ Status := do
  modify fun game => { game with now }
  events.forM handle
  checkTimeout
  let game ← get
  if game.menu.isSome || game.state.isOverlaid then return game.status
  passTime
  run

end Action

namespace Game

variable {τ : Type} [Clock τ]

/-- A new game over a program. The title menu is open if the project has one. -/
def start (setup : Setup τ) (library : Library) (files : FileTree) (program : Program) : Game τ :=
  { setup
    program
    entry := program
    state := ({} : State τ).introduceAll program
    menu := if setup.settings.titleMenu.enabled then some { kind := .title } else none
    now := Clock.zero
    library := library.remember program
    files }

/-- The directory of a project that is not named: that of its script. -/
def defaultRoot (script : Text) : Text := Path.absolute (Path.directory script)

/-- The quick save of a project that names none. -/
def defaultSavePath (root : Text) : Text := Path.join [root, "saves", "quick.json"]

end Game
end VisualNovel
