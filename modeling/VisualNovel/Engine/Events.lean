import VisualNovel.Engine.Execute

/-!
What the player does.

An event goes to the first thing that is over the story: a menu, the map, a choice, a question, or
an unread message. With none of these in the way a click looks for a button, dismisses a line, or
looks for a hotspot, and keys work on the story itself.
-/

namespace VisualNovel

/-- The keys of the player. -/
inductive Key where
  | advance
  | up
  | down
  | confirm
  | back
  | menu
  | inventory
  | quickSave
  | quickLoad
  | erase
  | pageUp
  | pageDown
  deriving DecidableEq, Repr, Inhabited

namespace Key

/-- All keys. -/
def all : List Key :=
  [.advance, .up, .down, .confirm, .back, .menu, .inventory, .quickSave, .quickLoad, .erase,
    .pageUp, .pageDown]

/-- The word for a key. -/
def word : Key → Text
  | .advance => "advance"
  | .up => "up"
  | .down => "down"
  | .confirm => "confirm"
  | .back => "back"
  | .menu => "menu"
  | .inventory => "inventory"
  | .quickSave => "quicksave"
  | .quickLoad => "quickload"
  | .erase => "backspace"
  | .pageUp => "pageUp"
  | .pageDown => "pageDown"

/-- The key with a word. -/
def ofWord? (t : Text) : Option Key := all.find? fun key => key.word = t

end Key

/-- Something that the player does. -/
inductive Event where
  | click (point : Point)
  | key (key : Key)
  | text (text : Text)
  | choose (pick : Ordinal)
  deriving DecidableEq, Repr, Inhabited

namespace Action

variable {τ : Type} [Clock τ]

/-! ## 1. Overlays -/

/-- Does what the entry under a pick says. -/
def takeMenuEntry (menu : Menu) (pick : Ordinal) : Action τ Unit := do
  match pick.get? (menu.entries (← get).setup.settings) with
  | some entry => takeMenuAction entry.action
  | none => return

/-- An event while a menu is open. -/
def menuEvent (menu : Menu) (event : Event) : Action τ Unit := do
  let settings := (← get).setup.settings
  match event with
  | .choose pick =>
    if (pick.get? (menu.entries settings)).isSome then
      let chosen := { menu with selected := pick }
      setMenu (some chosen)
      takeMenuEntry chosen pick
  | .key .up => setMenu (some (menu.move settings (-1)))
  | .key .down => setMenu (some (menu.move settings 1))
  | .key .confirm => takeMenuEntry menu menu.selected
  | .key .back | .key .menu =>
    if menu.page ≠ .main then takeMenuAction MenuAction.backName
    else if menu.kind = .pause then setMenu none
  | _ => return

/-- An event while the map is open. -/
def mapEvent (event : Event) : Action τ Unit := do
  let game ← get
  match event with
  | .key .back => change fun s => { s with map := { s.map with active := false } }
  | .choose pick => if (pick.get? game.state.map.points.toList).isSome then choose pick
  | .click click =>
    match game.state.map.points.find? (·.holds game.setup.settings.mapPointRadius click) with
    | some point =>
      change fun s => { s with map := { s.map with active := false } }
      jump point.target
    | none => return
  | _ => return

/-- Moves the cursor of the choice. -/
def moveChoice (choice : Choice τ) (terms : List Int) : Action τ Unit :=
  change fun s =>
    { s with
      choice := some { choice with selected := choice.selected.turn terms choice.options.length } }

/-- An event while a choice is open. -/
def choiceEvent (choice : Choice τ) (event : Event) : Action τ Unit := do
  match event with
  | .choose pick =>
    if (pick.get? choice.options).isSome then choose pick
    else log .warn (Text.ofString "ignoring out-of-range choice " ++ pick.text)
  | .key .up => moveChoice choice [-1, Int.ofNat choice.options.length]
  | .key .down => moveChoice choice [1]
  | .key .confirm => choose choice.selected
  | _ => return

/-- An event while a question is open. -/
def questionEvent (question : Question) (event : Event) : Action τ Unit := do
  let type := fun (buffer : Text) =>
    change fun s => { s with question := some { question with buffer } }
  match event with
  | .text text => type (question.buffer ++ text)
  | .key .erase => type question.buffer.eraseLast
  | .key .confirm => submit none
  | _ => return

/-- An event while a message is unread. -/
def phoneEvent (event : Event) : Action τ Unit := do
  match event with
  | .click _ | .key .advance | .key .confirm =>
    change fun s => { s with phone := { s.phone with unread := false } }
  | _ => return

/-! ## 2. The story itself -/

/-- Goes where a click leads. It ends the line and the wait, unless it only opens the inventory. -/
def follow (target : Text) : Action τ Unit := do
  if stripRootMark target ≠ inventoryToggle then
    change fun s => { s with dialogue := none, wait := none }
  jump target

/-- The button under a point of the screen. -/
def buttonAt? (game : Game τ) (point : Point) : Option HudButton :=
  if game.setup.features.hud then game.state.hud.values.find? (·.rect.holds point) else none

/-- The hotspot under a point of the screen. -/
def hotspotAt? (game : Game τ) (point : Point) : Option Hotspot :=
  let world := game.state.camera.toWorld game.setup.screen point
  game.state.hotspots.values.find? (·.shape.holds world)

/-- A click with nothing over the story. -/
def click (point : Point) : Action τ Unit := do
  let game ← get
  match buttonAt? game point with
  | some button => follow button.target
  | none =>
    if game.state.dialogue.isSome then change fun s => { s with dialogue := none }
    else
      match hotspotAt? game point with
      | some hotspot => follow hotspot.target
      | none => return

/-- A key with nothing over the story. -/
def storyKey (key : Key) : Action τ Unit := do
  match key with
  | .menu => let _ ← openPauseMenu
  | .quickSave => let _ ← save none
  | .quickLoad => let _ ← load none
  | .inventory => if (← get).setup.features.items then toggleInventory
  | .pageUp => let _ ← scroll (-1.0)
  | .pageDown => let _ ← scroll 1.0
  | .back => change fun s => { s with inventoryOpen := false }
  | .advance | .confirm => change fun s => { s with dialogue := none }
  | .up | .down | .erase => return

/-- One event. -/
def handle (event : Event) : Action τ Unit := do
  let game ← get
  match game.menu with
  | some menu => menuEvent menu event
  | none =>
    if game.state.map.active then mapEvent event
    else
      match game.state.choice, game.state.question with
      | some choice, _ => choiceEvent choice event
      | none, some question => questionEvent question event
      | none, none =>
        if game.state.phone.unread then phoneEvent event
        else
          match event with
          | .click point => click point
          | .key key => storyKey key
          | _ => return

end Action
end VisualNovel
