import VisualNovel.Json.Basic
import VisualNovel.Number.Numeral
import VisualNovel.Number.Ordinal

/-!
Menus and settings.

A menu is over the story until it is closed. It has a page with buttons, which a project can choose,
and pages with numbered slots for saving and loading. An entry names its action by a text; what the
text means is read by `MenuAction.ofText` when the entry is taken.
-/

namespace VisualNovel

/-! ## 1. Settings -/

/-- A button of a menu. -/
structure MenuButton where
  label : Text
  action : Text
  deriving DecidableEq, Repr, Inhabited

/-- The settings of a menu. -/
structure MenuSettings where
  enabled : Bool
  buttons : List MenuButton
  deriving DecidableEq, Repr, Inhabited

/-- What a project says about a menu. -/
structure MenuChoices where
  enabled : Option Bool := none
  buttons : Option (List MenuButton) := none
  deriving DecidableEq, Repr, Inhabited

/-- The settings of the interface. -/
structure Settings where
  titleMenu : MenuSettings
  pauseMenu : MenuSettings
  /-- The number of slots on the pages for saving and loading. -/
  slots : Float
  itemsPerPage : Float
  notifySeconds : Float
  /-- How far from a point of a map without corners a click still counts. -/
  mapPointRadius : Float
  deriving DecidableEq, Repr, Inhabited

/-- What a project says about the interface. -/
structure SettingChoices where
  titleMenu : Option MenuChoices := none
  pauseMenu : Option MenuChoices := none
  slots : Option Float := none
  itemsPerPage : Option Float := none
  notifySeconds : Option Float := none
  mapPointRadius : Option Float := none
  deriving DecidableEq, Repr, Inhabited

/-- Which parts of the interface a project uses. -/
structure Features where
  items : Bool := true
  hud : Bool := true
  deriving DecidableEq, Repr, Inhabited

/-- What a project says about the parts of the interface. -/
structure FeatureChoices where
  items : Option Bool := none
  hud : Option Bool := none
  deriving DecidableEq, Repr, Inhabited

/-- The parts of the interface with the choices of a project. -/
def FeatureChoices.resolve (c : FeatureChoices) : Features := ⟨c.items.getD true, c.hud.getD true⟩

/-- The settings of a menu with the choices of a project. -/
def MenuSettings.choose (base : MenuSettings) (c : Option MenuChoices) : MenuSettings :=
  ⟨(c.bind (·.enabled)).getD base.enabled, (c.bind (·.buttons)).getD base.buttons⟩

namespace Settings

/-- The title menu of a project that says nothing about it. -/
def titleMenuDefault : MenuSettings :=
  { enabled := false
    buttons :=
      [⟨"New Game", "new_game"⟩, ⟨"Continue", "continue"⟩, ⟨"Load", "open_load"⟩,
        ⟨"Quit", "quit"⟩] }

/-- The pause menu of a project that says nothing about it. -/
def pauseMenuDefault : MenuSettings :=
  { enabled := true
    buttons :=
      [⟨"Resume", "resume"⟩, ⟨"Quick Save", "quick_save"⟩, ⟨"Quick Load", "quick_load"⟩,
        ⟨"Save", "open_save"⟩, ⟨"Load", "open_load"⟩, ⟨"Quit", "quit"⟩] }

/-- The settings of a project that says nothing. -/
def default : Settings :=
  { titleMenu := titleMenuDefault
    pauseMenu := pauseMenuDefault
    slots := 6.0
    itemsPerPage := 10.0
    notifySeconds := 2.5
    mapPointRadius := 24.0 }

end Settings

/-- The settings with the choices of a project. -/
def SettingChoices.resolve (c : SettingChoices) : Settings :=
  let base := Settings.default
  { titleMenu := base.titleMenu.choose c.titleMenu
    pauseMenu := base.pauseMenu.choose c.pauseMenu
    slots := c.slots.getD base.slots
    itemsPerPage := c.itemsPerPage.getD base.itemsPerPage
    notifySeconds := c.notifySeconds.getD base.notifySeconds
    mapPointRadius := c.mapPointRadius.getD base.mapPointRadius }

/-! ## 2. Actions -/

/-- The start of the name of a slot. -/
def slotMark : Text := "slot_"

/-- The name of a slot. -/
def slotName (number : Float) : Text := slotMark ++ Number.text number

/-- The number of the slot that a text names: digits behind the mark. -/
def slotNumber? (t : Text) : Option Float :=
  if t.startsWith slotMark then
    let digits := t.drop slotMark.length
    if !digits.isEmpty && digits.all Text.isDigit then
      some (Number.ofDecimal false (Text.natOfDigits digits) 0)
    else none
  else none

/-- What an entry of a menu does. -/
inductive MenuAction where
  | newGame
  | proceed
  | openSave
  | openLoad
  | back
  | resume
  | quit
  | quickSave
  | quickLoad
  | slot (number : Float)
  | other (name : Text)
  deriving DecidableEq, Repr, Inhabited

namespace MenuAction

/-- The actions that a button of a project can have, by their names. -/
def named : List (Text × MenuAction) :=
  [("new_game", newGame), ("continue", proceed), ("open_save", openSave), ("open_load", openLoad),
    ("resume", resume), ("quit", quit), ("quick_save", quickSave), ("quick_load", quickLoad)]

/-- Whether a text names an action that a button of a project can have. -/
def isNamed (t : Text) : Bool := named.any fun e => e.1 = t

/-- The name of the entry that leaves a page. -/
def backName : Text := "back"

/-- What a text means. -/
def ofText (t : Text) : MenuAction :=
  match slotNumber? t with
  | some number => .slot number
  | none =>
    if t = backName then .back
    else (named.lookup t).getD (.other t)

end MenuAction

/-! ## 3. Open menus -/

/-- Which menu is open. -/
inductive MenuKind where
  | title | pause
  deriving DecidableEq, Repr, Inhabited

/-- The word for a menu. -/
def MenuKind.word : MenuKind → Text
  | .title => "title"
  | .pause => "pause"

/-- The page of a menu. -/
inductive MenuPage where
  | main | save | load
  deriving DecidableEq, Repr, Inhabited

/-- The word for a page. -/
def MenuPage.word : MenuPage → Text
  | .main => "main"
  | .save => "save"
  | .load => "load"

/-- An open menu with its cursor. -/
structure Menu where
  kind : MenuKind
  page : MenuPage := .main
  selected : Ordinal := .nth 0
  deriving DecidableEq, Repr, Inhabited

namespace Menu

/-- The entry for a slot. -/
def slotEntry (slot : Nat) : MenuButton :=
  let number := Float.ofNat slot
  ⟨Text.ofString "Slot " ++ Number.text number, slotName number⟩

/-- The entries of a menu: the buttons of its main page, or the slots and the way back. -/
def entries (menu : Menu) (settings : Settings) : List MenuButton :=
  match menu.page, menu.kind with
  | .main, .title => settings.titleMenu.buttons
  | .main, .pause => settings.pauseMenu.buttons
  | _, _ =>
    (List.range (Number.countUpTo settings.slots)).map (fun k => slotEntry (k + 1)) ++
      [⟨"Back", MenuAction.backName⟩]

/-- The number of entries of a menu. -/
def entryCount (menu : Menu) (settings : Settings) : Nat :=
  match menu.page, menu.kind with
  | .main, .title => settings.titleMenu.buttons.length
  | .main, .pause => settings.pauseMenu.buttons.length
  | _, _ => Number.countUpTo settings.slots + 1

theorem length_entries (menu : Menu) (settings : Settings) :
    (menu.entries settings).length = menu.entryCount settings := by
  unfold entries entryCount
  split <;> simp

/-- Moves the cursor, round the ends. A menu without entries has nothing to move to. -/
def move (menu : Menu) (settings : Settings) (delta : Int) : Menu :=
  let count := menu.entryCount settings
  if count = 0 then menu
  else { menu with selected := menu.selected.turn [delta, Int.ofNat count] count }

/-- Moves the cursor by any number, round the ends. -/
def moveBy (menu : Menu) (settings : Settings) (delta : Float) : Menu :=
  let count := menu.entryCount settings
  if count = 0 then menu else { menu with selected := menu.selected.turnBy delta count }

/-- The menu on another page, with the cursor at the top. -/
def turnTo (menu : Menu) (page : MenuPage) : Menu := { menu with page, selected := .nth 0 }

end Menu
end VisualNovel
