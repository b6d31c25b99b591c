import VisualNovel.Engine.Report

/-!
Orders: what tools send to a game, read from JSON.

These readers are lenient. A field that is missing or of another kind is taken as left out, and
what a tool must not leave out has a plain default.
-/

namespace VisualNovel

namespace Json

/-- The text of a field, empty if it is missing. -/
def textOr (j : Json) (name : String) : Text := (j.textField? name).getD []

/-- The number of a field, and not a number if it is missing. -/
def numOr (j : Json) (name : String) : Float := (j.numField? name).getD (0.0 / 0.0)

/-- The integer of a number, if it is one. -/
def integer? (j : Json) : Option Int :=
  j.num?.bind fun x =>
    match Number.toNat? x with
    | some n => some (Int.ofNat n)
    | none => (Number.toNat? (-x)).map fun n => -Int.ofNat n

/-- The items of a field, none if it is missing. -/
def itemsOr (j : Json) (name : String) : List Json := (j.need name items?).getD []

/-- The texts of an array. -/
def texts (j : Json) : List Text := (j.items?.getD []).filterMap text?

end Json

/-- A button of a menu. -/
def MenuButton.ofJson (j : Json) : MenuButton := ⟨j.textOr "label", j.textOr "action"⟩

/-- Choices about a menu. -/
def MenuChoices.ofJson (j : Json) : MenuChoices :=
  { enabled := j.need "enabled" Json.bool?
    buttons := (j.need "buttons" Json.items?).map (·.map MenuButton.ofJson) }

/-- Choices about the interface. -/
def SettingChoices.ofJson (j : Json) : SettingChoices :=
  { titleMenu := (j.field? "titleMenu").map MenuChoices.ofJson
    pauseMenu := (j.field? "pauseMenu").map MenuChoices.ofJson
    slots := j.numField? "slots"
    itemsPerPage := j.numField? "inventoryItemsPerPage"
    notifySeconds := j.numField? "notifySeconds"
    mapPointRadius := j.numField? "mapPointRadius" }

/-- Choices about the parts of the interface. -/
def FeatureChoices.ofJson (j : Json) : FeatureChoices :=
  ⟨j.need "items" Json.bool?, j.need "hud" Json.bool?⟩

/-- The size of the screen. -/
def Screen.ofJson (j : Json) : Screen := ⟨j.numOr "width", j.numOr "height"⟩

/-- A camera. -/
def Camera.ofJson (j : Json) : Camera := ⟨j.numOr "panX", j.numOr "panY", j.numOr "zoom"⟩

/-- An open menu. -/
def Menu.ofJson (j : Json) : Menu :=
  { kind := (j.need "kind" (Json.worded? [MenuKind.title, .pause] MenuKind.word)).getD .pause
    page := (j.need "mode" (Json.worded? [MenuPage.main, .save, .load] MenuPage.word)).getD .main
    selected := Ordinal.ofNumber (j.numOr "selected") }

/-- A pick that may be no number at all. -/
def Ordinal.ofField (j : Json) (name : String) : Ordinal := Ordinal.ofNumber (j.numOr name)

/-- Something that the player does. Keys that are not known are nothing. -/
def Event.ofJson? (j : Json) : Option Event :=
  match (j.textOr "type").toString with
  | "click" => some (.click ⟨j.numOr "x", j.numOr "y"⟩)
  | "key" => (j.need "key" (Json.worded? Key.all Key.word)).map .key
  | "text" => some (.text (j.textOr "text"))
  | "choose" => some (.choose (Ordinal.ofField j "index"))
  | _ => none

/-- A movement of a sprite. -/
def Track.ofJson (j : Json) : Track Float :=
  { action := (j.need "action" (Json.worded? TrackAction.all TrackAction.word)).getD .move
    start := j.numOr "startMs"
    duration := j.numOr "durationMs"
    ease := (j.need "ease" (Json.worded? Ease.all Ease.word)).getD .linear
    source := (j.itemsOr "from").filterMap Json.num?
    goal := (j.itemsOr "to").filterMap Json.num? }

/-- A meter. -/
def Meter.ofJson (j : Json) : Meter :=
  ⟨j.textOr "label", j.numOr "min", j.numOr "max", j.numOr "value", j.textField? "color"⟩

/-- A boundary. -/
def Boundary.ofJson (j : Json) : Boundary :=
  let events := [BoundaryEvent.choices, .input, .ended]
  { event := (j.need "event" (Json.worded? events BoundaryEvent.word)).getD .ended
    texts := ((j.field? "texts").map Json.texts).getD []
    choices := (j.itemsOr "choices").map fun c =>
      { index := Ordinal.ofField c "index", text := c.textOr "text" }
    choicePrompt := j.textField? "choicePromptText"
    inputPrompt := j.textField? "inputPromptText"
    inputDefault := j.textField? "inputDefaultText" }

/-- A request by its name and arguments. Paths to keep are put into order, each once. -/
def AssetRequest.ofArgs? (name : String) (args : List Json) : Option AssetRequest :=
  let text := fun (i : Nat) => (args[i]?.bind Json.text?).getD []
  let size := (args[1]?.bind (Json.point? Json.num?)).getD ⟨0.0, 0.0⟩
  let keep := sortedOnce ((args[0]?.map Json.texts).getD [])
  match name with
  | "loadImage" => some (.loadImage (text 0) (text 1))
  | "makeColorSurface" => some (.makeColorSurface (text 0) size)
  | "makeRectSurface" => some (.makeRectSurface (text 0) size)
  | "playSound" => some (.playSound (text 0))
  | "playMusic" => some (.playMusic (text 0) ((args[1]?.bind Json.bool?).getD false))
  | "playEcho" => some (.playEcho (text 0))
  | "stopEcho" => some .stopEcho
  | "playVoice" => some (.playVoice (text 0))
  | "mute" => some (.mute (text 0))
  | "clearImages" => some .clearImages
  | "clearSounds" => some .clearSounds
  | "clearAll" => some .clearAll
  | "pruneImages" => some (.pruneImages keep)
  | "pruneSounds" => some (.pruneSounds keep)
  | "pinImage" => some (.pinImage (text 0) (text 1))
  | "unpinImage" => some (.unpinImage (text 0) (text 1))
  | "pinSound" => some (.pinSound (text 0))
  | "unpinSound" => some (.unpinSound (text 0))
  | "preloadImage" => some (.preloadImage (text 0) (text 1))
  | "preloadSound" => some (.preloadSound (text 0))
  | _ => none

end VisualNovel
