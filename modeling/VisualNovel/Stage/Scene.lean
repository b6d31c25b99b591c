import VisualNovel.Stage.Motion

/-!
The scene: a background with sprites before it.

A transition remembers when it began. A sprite that is leaving goes away when its transition is
over. Sprites keep the order in which they came.
-/

namespace VisualNovel

/-- A transition that has begun. -/
structure Transition (τ : Type) where
  style : TransitionStyle
  seconds : Float
  started : τ
  deriving DecidableEq, Repr, Inhabited

/-- What a sprite shows. -/
inductive SpriteKind where
  | image | rect | character
  deriving DecidableEq, Repr, Inhabited

namespace SpriteKind

/-- All kinds. -/
def all : List SpriteKind := [.image, .rect, .character]

/-- The word for a kind. -/
def word : SpriteKind → Text
  | .image => "image"
  | .rect => "rect"
  | .character => "char"

/-- The kind with a word. -/
def ofWord? (t : Text) : Option SpriteKind := all.find? fun k => k.word = t

/-- The kind of a sprite that a script adds by itself. -/
def ofAsset : AssetKind → SpriteKind
  | .image => .image
  | .rect => .rect

end SpriteKind

/-- A sprite on the stage. -/
structure Sprite (τ : Type) where
  id : Text
  kind : SpriteKind
  /-- The path of its picture, or the color of a rectangle. -/
  value : Text
  anchor : Option Text := none
  z : Float := 0.0
  pos : Point
  size : Option Point := none
  /-- From 0 to 255. -/
  alpha : Float := 255.0
  floating : Floating := {}
  transition : Option (Transition τ) := none
  /-- Whether the sprite goes away at the end of its transition. -/
  leaving : Bool := false
  deriving DecidableEq, Repr, Inhabited

/-- What is behind the sprites. -/
structure Background (τ : Type) where
  kind : SceneKind := .color
  value : Text := "#000000"
  floating : Floating := {}
  transition : Option (Transition τ) := none
  deriving DecidableEq, Repr, Inhabited

/-- A change of the whole picture. -/
abbrev Blend := Transition

namespace Transition

variable {τ : Type}

/-- The transition that a command asks for, beginning at a moment. Its own seconds count before
those of a fade. -/
def ofSpec (spec : TransitionSpec) (now : τ) : Option (Transition τ) :=
  (spec.seconds.or spec.fade).map fun seconds => ⟨spec.style.getD .fade, seconds, now⟩

/-- Whether a transition is over. -/
def isOver [Clock τ] (t : Transition τ) (now : τ) : Bool :=
  Clock.reached now (Clock.after t.started t.seconds)

/-- The transition with its moment changed. -/
def mapTime {σ : Type} (f : τ → σ) (t : Transition τ) : Transition σ :=
  { t with started := f t.started }

end Transition

namespace Sprite

variable {τ : Type}

/-- The sprite with its moment changed. -/
def mapTime {σ : Type} (f : τ → σ) (s : Sprite τ) : Sprite σ :=
  { s with transition := s.transition.map (·.mapTime f) }

/-- The size of a sprite, nothing where it is not known. -/
def extent (s : Sprite τ) : Point := s.size.getD ⟨0.0, 0.0⟩

/-- Whether a sprite is to be taken away at a moment. -/
def isGone [Clock τ] (s : Sprite τ) (now : τ) : Bool :=
  s.leaving && (s.transition.map (·.isOver now)).getD false

/-- The sprite with the numbers of a track. -/
def put (s : Sprite τ) (action : TrackAction) (values : List Float) : Sprite τ :=
  let at? := fun (p : Point) => Point.mk (values[0]?.getD p.x) (values[1]?.getD p.y)
  match action with
  | .alpha => { s with alpha := Number.clamp (values[0]?.getD s.alpha) 0.0 255.0 }
  | .move => { s with pos := at? s.pos }
  | .size => { s with size := some (at? s.extent) }

/-- The numbers of a sprite that an action changes. -/
def numbers (s : Sprite τ) : TrackAction → List Float
  | .alpha => [s.alpha]
  | .move => [s.pos.x, s.pos.y]
  | .size => [s.extent.x, s.extent.y]

end Sprite

/-- The background with its moment changed. -/
def Background.mapTime {τ σ : Type} (f : τ → σ) (b : Background τ) : Background σ :=
  { b with transition := b.transition.map (·.mapTime f) }

namespace AnimationGoal

/-- What a movement changes. -/
def action : AnimationGoal → TrackAction
  | .move _ => .move
  | .size _ => .size
  | .alpha _ => .alpha

/-- The numbers that a movement leads to. -/
def numbers : AnimationGoal → List Float
  | .move p => [p.x, p.y]
  | .size p => [p.x, p.y]
  | .alpha x => [x]

end AnimationGoal

/-! ## Movement of all sprites -/

variable {τ : Type} [Clock τ]

/-- One sprite and its tracks at a moment: the track for an action gives its numbers, and is taken
away when it is over. -/
def advanceTrack (now : τ) (moving : Sprite τ × Tracks τ) (action : TrackAction) :
    Sprite τ × Tracks τ :=
  match moving.2.get? action with
  | none => moving
  | some track =>
    let sample := track.sample now
    (moving.1.put action sample.values,
      if sample.done then moving.2.put action none else moving.2)

/-- Moves the sprite of an entry of the table of tracks. An entry without a sprite or without
tracks goes away. -/
def advanceEntry (now : τ) (scene : Table (Sprite τ) × Table (Tracks τ))
    (entry : Text × Tracks τ) : Table (Sprite τ) × Table (Tracks τ) :=
  match scene.1.get? entry.1 with
  | none => (scene.1, scene.2.erase entry.1)
  | some sprite =>
    let (moved, left) := TrackAction.all.foldl (advanceTrack now) (sprite, entry.2)
    (scene.1.set entry.1 moved,
      if left.isEmpty then scene.2.erase entry.1 else scene.2.set entry.1 left)

/-- Moves all sprites that have tracks. -/
def advanceTracks (now : τ) (sprites : Table (Sprite τ)) (tracks : Table (Tracks τ)) :
    Table (Sprite τ) × Table (Tracks τ) :=
  tracks.entries.foldl (advanceEntry now) (sprites, tracks)

end VisualNovel
