import VisualNovel.Number.Ordinal
import VisualNovel.Stage.Geometry
import VisualNovel.Story.Value

/-!
Commands of a story.

A script is read into a list of commands. Some of them name labels: `targets` lists these names and
`mapTargets` changes them, which is how scripts are put together. A field that a script leaves out
is absent in the command, and what then counts is decided when the command is played.
-/

namespace VisualNovel

/-! ## 1. Vocabulary -/

/-- How a picture or a sprite comes and goes. -/
inductive TransitionStyle where
  | fade | wipe | slide | dissolve | zoom | blur | flash | shake | none
  deriving DecidableEq, Repr, Inhabited

namespace TransitionStyle

/-- All styles, in the order in which messages list them. -/
def all : List TransitionStyle :=
  [.fade, .wipe, .slide, .dissolve, .zoom, .blur, .flash, .shake, .none]

/-- The word for a style. -/
def word : TransitionStyle → Text
  | .fade => "fade"
  | .wipe => "wipe"
  | .slide => "slide"
  | .dissolve => "dissolve"
  | .zoom => "zoom"
  | .blur => "blur"
  | .flash => "flash"
  | .shake => "shake"
  | .none => "none"

/-- The style with a word. -/
def ofWord? (t : Text) : Option TransitionStyle := all.find? fun s => s.word = t

end TransitionStyle

/-- How a movement is spread over its time. -/
inductive Ease where
  | linear | accelerate | decelerate | both
  deriving DecidableEq, Repr, Inhabited

namespace Ease

/-- All kinds, in the order in which messages list them. -/
def all : List Ease := [.linear, .accelerate, .decelerate, .both]

/-- The word for a kind. -/
def word : Ease → Text
  | .linear => "linear"
  | .accelerate => "in"
  | .decelerate => "out"
  | .both => "inout"

/-- The kind with a word. -/
def ofWord? (t : Text) : Option Ease := all.find? fun e => e.word = t

end Ease

/-- How a video fills the screen. -/
inductive VideoFit where
  | contain | cover | stretch
  deriving DecidableEq, Repr, Inhabited

namespace VideoFit

/-- All kinds, in the order in which messages list them. -/
def all : List VideoFit := [.contain, .cover, .stretch]

/-- The word for a kind. -/
def word : VideoFit → Text
  | .contain => "contain"
  | .cover => "cover"
  | .stretch => "stretch"

end VideoFit

/-- What a background or a flat sprite is filled with. -/
inductive SceneKind where
  | color | image
  deriving DecidableEq, Repr, Inhabited

/-- The word for a kind of background. -/
def SceneKind.word : SceneKind → Text
  | .color => "color"
  | .image => "image"

/-- What a sprite shows that a script adds by itself. -/
inductive AssetKind where
  | image | rect
  deriving DecidableEq, Repr, Inhabited

/-- The word for a kind of sprite. -/
def AssetKind.word : AssetKind → Text
  | .image => "image"
  | .rect => "rect"

/-- The side of a phone message. -/
inductive Side where
  | left | right
  deriving DecidableEq, Repr, Inhabited

/-- The word for a side. -/
def Side.word : Side → Text
  | .left => "left"
  | .right => "right"

/-- What a button on the screen shows. -/
inductive HudStyle where
  | text | icon | both
  deriving DecidableEq, Repr, Inhabited

/-- The word for a style of button. -/
def HudStyle.word : HudStyle → Text
  | .text => "text"
  | .icon => "icon"
  | .both => "both"

/-- The words that place a sprite. -/
def anchorWords : List Text := ["left", "right", "center", "top", "bottom", "middle"]

/-! ## 2. Parts of commands -/

/-- A transition as a script writes it. -/
structure TransitionSpec where
  fade : Option Float := none
  style : Option TransitionStyle := none
  seconds : Option Float := none
  deriving DecidableEq, Repr, Inhabited

/-- The gentle movement of a picture in its place. -/
structure Floating where
  amplitude : Option Float := none
  speed : Option Float := none
  deriving DecidableEq, Repr, Inhabited

/-- An option of a choice: its text, and the label it leads to. -/
structure ChoiceOption where
  text : Text
  target : Text
  deriving DecidableEq, Repr, Inhabited

/-- A sprite that a script adds by itself. -/
structure SpriteSpec where
  kind : AssetKind
  name : Text
  value : Text
  size : Option Point := none
  pos : Option Point := none
  anchor : Option Text := none
  z : Option Float := none
  transition : TransitionSpec := {}
  floating : Floating := {}
  deriving DecidableEq, Repr, Inhabited

/-- The appearance of a character on the stage. -/
structure CharacterShow where
  ident : Text
  expression : Option Text := none
  pos : Option Point := none
  anchor : Option Text := none
  z : Option Float := none
  transition : TransitionSpec := {}
  floating : Floating := {}
  deriving DecidableEq, Repr, Inhabited

/-- A character of the story: how its name, its lines and its sprites look. -/
structure Character where
  ident : Text
  displayName : Option Text := none
  color : Option Text := none
  voiceTag : Option Text := none
  pos : Option Point := none
  anchor : Option Text := none
  z : Option Float := none
  floating : Floating := {}
  sprites : Table Text := {}
  deriving DecidableEq, Repr, Inhabited

/-- What a movement of a sprite leads to. -/
inductive AnimationGoal where
  | move (point : Point)
  | size (extent : Point)
  | alpha (value : Float)
  deriving DecidableEq, Repr, Inhabited

/-- What a script can clear. -/
inductive CacheTarget where
  | images
  | scripts
  | stage
  | script (path : Text)
  deriving DecidableEq, Repr, Inhabited

/-- The area of a hotspot. -/
inductive HotspotShape where
  | rect (area : Rect)
  | polygon (corners : List Point)
  deriving DecidableEq, Repr, Inhabited

/-- A button on the screen. -/
structure HudButton where
  name : Text
  style : HudStyle
  text : Option Text := none
  icon : Option Text := none
  rect : Rect
  target : Text
  deriving DecidableEq, Repr, Inhabited

/-! ## 3. Commands -/

/-- A command of a story. -/
inductive Command where
  | label (name : Text)
  | say (speaker : Option Text) (text : Text)
  | jump (target : Text)
  | choice (prompt : Text) (options : List ChoiceOption) (timeout : Option Float)
      (timeoutDefault : Option Ordinal)
  | scene (kind : SceneKind) (value : Text) (transition : TransitionSpec) (floating : Floating)
  | show (sprite : SpriteSpec)
  | showCharacter (appearance : CharacterShow)
  | hide (name : Text) (transition : TransitionSpec)
  | camera (camera : Camera)
  | animate (name : Text) (goal : AnimationGoal) (seconds : Float) (ease : Ease)
  | stopAnimation (name : Option Text)
  | music (channel path : Text) (loop : Bool)
  | sound (channel : Option Text) (path : Text)
  | echo (path : Text)
  | stopEcho
  | voice (character : Option Text) (path : Text)
  | mute (target : Text)
  | preload (kind path : Text)
  | clearCache (target : CacheTarget)
  | pin (kind path : Text)
  | unpin (kind path : Text)
  | collect
  | wait (seconds : Float)
  | waitVoice
  | waitVideo
  | notify (text : Text) (seconds : Option Float)
  | blend (style : TransitionStyle) (seconds : Float)
  | save (slot : Option Text)
  | load (slot : Option Text)
  | setVariable (name : Text) (value : Operand)
  | addVariable (name : Text) (amount : Float)
  | jumpIf (name : Text) (op : CompareOp) (value : Operand) (target : Text)
  | call (path resolved label : Text)
  | beginLoading (text : Option Text)
  | endLoading
  | define (character : Character)
  | input (name prompt : Text) (default : Option Text)
  | openPhone (contact : Text)
  | phoneMessage (side : Side) (text : Text)
  | closePhone
  | showMeter (name label : Text) (min max : Float) (color : Option Text)
  | hideMeter (name : Text)
  | updateMeter (name : Text)
  | clearMeters
  | addItem (id name description : Text) (icon : Option Text) (amount : Float)
  | removeItem (id : Text) (amount : Float)
  | clearItems
  | showMap (image : Text)
  | mapPoint (title : Text) (pos : Point) (corners : Option (List Point)) (target : Text)
  | hideMap
  | playVideo (path : Text) (loop : Bool) (fit : VideoFit)
  | stopVideo
  | hotspot (name : Text) (shape : HotspotShape) (target : Text)
  | removeHotspot (name : Option Text)
  | debugHotspots (enabled : Bool)
  | button (button : HudButton)
  | removeButton (name : Option Text)
  deriving DecidableEq, Repr, Inhabited

/-- The target that the player handles itself and that names no label. -/
def inventoryToggle : Text := "inventory_toggle"

/-- The mark of a name that is looked up in the outermost script. -/
def rootMark : Text := "::"

/-- The name without the mark of the outermost script. -/
def stripRootMark (name : Text) : Text :=
  if name.startsWith rootMark then name.drop 2 else name

namespace Command

/-- The label names that a command can lead to, in the order in which it names them. -/
def targets : Command → List Text
  | .jump target => [target]
  | .jumpIf _ _ _ target => [target]
  | .hotspot _ _ target => [target]
  | .button b => [b.target]
  | .choice _ options _ _ => options.map (·.target)
  | .mapPoint _ _ _ target => [target]
  | _ => []

/-- The command with its targets changed, and with the name of a label changed where a change for
labels is given. -/
def mapTargets (change : Text → Text) (changeLabel : Option (Text → Text)) : Command → Command
  | .label name =>
    match changeLabel with
    | some f => .label (f name)
    | none => .label name
  | .jump target => .jump (change target)
  | .jumpIf name op value target => .jumpIf name op value (change target)
  | .hotspot name shape target => .hotspot name shape (change target)
  | .button b => .button { b with target := change b.target }
  | .choice prompt options timeout timeoutDefault =>
    .choice prompt (options.map fun o => { o with target := change o.target }) timeout
      timeoutDefault
  | .mapPoint title pos corners target => .mapPoint title pos corners (change target)
  | command => command

/-- The word for the kind of a command that can name a label. -/
def kindWord : Command → Text
  | .label _ => "label"
  | .jump _ => "jump"
  | .jumpIf .. => "ifJump"
  | .hotspot _ (.rect _) _ => "hotspotAdd"
  | .hotspot _ (.polygon _) _ => "hotspotPoly"
  | .button _ => "hudAdd"
  | .choice .. => "choice"
  | .mapPoint .. => "map"
  | _ => "command"

end Command

/-- A story as it is played: its commands, and where its labels are. -/
structure Program where
  /-- The absolute path of the outermost script. -/
  script : Text
  commands : Array Command
  labels : Table Nat
  deriving Repr, Inhabited

/-- The command with a number, if there is one. -/
def Program.commandAt? (program : Program) (index : Ordinal) : Option Command :=
  match index with
  | .nth n => program.commands[n]?
  | .stray _ => none

end VisualNovel
