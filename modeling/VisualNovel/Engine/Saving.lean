import VisualNovel.Engine.Game

/-!
Saving and loading a game, and the menus that lead there.

Loading either changes nothing but the library, or replaces the state as a whole: whatever can go
wrong is settled before the first change. A load comes to an end unless the lexer never returns on
the script of the save.
-/

namespace VisualNovel
namespace Action

variable {τ : Type} [Clock τ]

/-! ## 1. Snapshots -/

/-- The snapshot of the game. -/
def snapshot : Action τ (Snapshot τ) := do
  let game ← get
  return Snapshot.ofState game.state (Path.toProject game.setup.root game.program.script) game.now

/-- The program of a script: the one that is played, or one from the library. Nothing for a script
that cannot be read, with a warning; where the lexer never returns, this does not either. -/
def savedProgram (script : Text) : Action τ (Option Program) := do
  let game ← get
  if script = Path.absolute game.program.script then return some game.program
  let loaded := game.library.load game.files script
  set { game with library := loaded.library }
  logAll loaded.logs
  match loaded.result with
  | .ok edition => return some edition.program
  | .error fault =>
    passOn fault
    log .warn <|
      ScriptProblem.sentence ["cannot load saved script ", script, ": ", fault.cause.message]
    return none

/-- Replaces the state by that of a snapshot, and plays its music and its echo. -/
def resumeFrom (data : Snapshot τ) (program : Program) : Action τ Unit := do
  closeVideo
  modify fun game =>
    { game with program, state := (data.toState game.now).introduceAll program }
  let s ← state
  if let some music := s.music then request (.playMusic music.path music.loop)
  if let some echo := s.echo then
    if !echo.isEmpty then request (.playEcho echo)

/-- Goes on from a snapshot, and says whether that was possible. -/
def restore (data : Snapshot τ) : Action τ Bool := do
  let script := Path.fromProject (← get).setup.root data.script
  match ← savedProgram script with
  | none => return false
  | some program =>
    if data.index.exceeds program.commands.size then
      log .warn <| ScriptProblem.sentence ["saved index ", data.index.text,
        " is past the end of ", program.script]
      return false
    resumeFrom data program
    return true

/-! ## 2. Save files -/

/-- Writes a save file, and gives its path if it is written. -/
def saveTo (path : Text) : Action τ (Option Text) := do
  let data ← snapshot
  let game ← get
  let written := (data.mapTime Clock.toMillis).save game.files path
  set { game with files := written.files }
  logAll written.logs
  match written.result with
  | .error e => throw (.file e)
  | .ok false => return none
  | .ok true =>
    log .info (Text.ofString "saved " ++ path)
    return some path

/-- Goes on from a save file, and says whether that was possible. -/
def loadFrom (path : Text) : Action τ Bool := do
  let (data?, logs) := Snapshot.load (← get).files path
  logAll logs
  match data? with
  | none => return false
  | some data => restore (data.mapTime Clock.ofMillis)

/-- The file of a slot, or that of the quick save. -/
def slotFile (slot : Option Text) : Action τ Text := do
  let savePath := (← get).setup.savePath
  return (slot.map (slotPath savePath)).getD savePath

/-- Saves to a slot, or to the quick save. -/
def save (slot : Option Text) : Action τ (Option Text) := do saveTo (← slotFile slot)

/-- Loads from a slot, or from the quick save. -/
def load (slot : Option Text) : Action τ Bool := do loadFrom (← slotFile slot)

/-! ## 3. Menus -/

/-- What becomes of a menu after saving: the pause menu closes, the title menu goes back to its main
page. -/
def leaveAfterSave (menu : Menu) : Action τ Unit :=
  setMenu (if menu.kind = .pause then none else some (menu.turnTo .main))

/-- Does what an entry of the open menu says. -/
def takeMenuAction (name : Text) : Action τ Unit := do
  match (← get).menu with
  | none => return
  | some menu =>
    match MenuAction.ofText name with
    | .slot number =>
      let slot := some (slotName number)
      if menu.page = .save then
        if (← save slot).isSome then leaveAfterSave menu
      else if ← load slot then setMenu none
    | .newGame => restart
    | .proceed =>
      if ← load none then setMenu none
      else log .info "continue: no usable quick save"
    | .openSave => setMenu (some (menu.turnTo .save))
    | .openLoad => setMenu (some (menu.turnTo .load))
    | .back => setMenu (some (menu.turnTo .main))
    | .resume => if menu.kind = .pause then setMenu none
    | .quit => modify fun game => { game with quitRequested := true }
    | .quickSave => if (← save none).isSome then leaveAfterSave menu
    | .quickLoad =>
      let loaded ← load none
      if loaded || menu.kind = .pause then setMenu none
    | .other name =>
      log .warn <| ScriptProblem.sentence ["unknown menu action ", inQuotes name]

end Action
end VisualNovel
