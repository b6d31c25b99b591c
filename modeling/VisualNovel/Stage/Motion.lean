import VisualNovel.Clock
import VisualNovel.Script.Command

/-!
Motion: how a sprite gets from one state to another over time.

A track leads a list of numbers from a source to a goal. `Ease.progress` says how much of the way is
done after a part of the time, and `Track.sample` gives the numbers at a moment. From the end of its
time on a track gives its goal.
-/

namespace VisualNovel

/-- The part of the way that is done after a part of the time. All squares are products here; a power
function may round the square in the second half of `both` otherwise. -/
def Ease.progress (ease : Ease) (time : Float) : Float :=
  let t := Number.clamp time 0.0 1.0
  match ease with
  | .linear => t
  | .accelerate => t * t
  | .decelerate => 1.0 - (1.0 - t) * (1.0 - t)
  | .both =>
    if t < 0.5 then 2.0 * t * t
    else
      let rest := -2.0 * t + 2.0
      1.0 - rest * rest / 2.0

/-- What a track changes about a sprite. -/
inductive TrackAction where
  | move | size | alpha
  deriving DecidableEq, Repr, Inhabited

namespace TrackAction

/-- All actions, in the order in which they are applied. -/
def all : List TrackAction := [.move, .size, .alpha]

/-- The word for an action. -/
def word : TrackAction → Text
  | .move => "move"
  | .size => "size"
  | .alpha => "alpha"

/-- The action with a word. -/
def ofWord? (t : Text) : Option TrackAction := all.find? fun a => a.word = t

end TrackAction

/-- A movement of a sprite. -/
structure Track (τ : Type) where
  action : TrackAction
  start : τ
  /-- How long it takes, in milliseconds. -/
  duration : Float
  ease : Ease
  source : List Float
  goal : List Float
  deriving DecidableEq, Repr, Inhabited

/-- The numbers of a track at a moment, and whether it is over. -/
structure TrackSample where
  values : List Float
  done : Bool
  deriving DecidableEq, Repr, Inhabited

/-- The numbers on the way to a goal. A number without a source stands at its goal. -/
def between (progress : Float) : List Float → List Float → List Float
  | _, [] => []
  | [], target :: rest => (target + (target - target) * progress) :: between progress [] rest
  | start :: starts, target :: rest =>
    (start + (target - start) * progress) :: between progress starts rest

namespace Track

variable {τ : Type} [Clock τ]

/-- The part of its time that a track has used at a moment. -/
def portion (track : Track τ) (now : τ) : Float :=
  if track.duration ≤ 0.0 then 1.0
  else Clock.toMillis (Clock.sub now track.start) / track.duration

/-- The numbers of a track at a moment. -/
def sample (track : Track τ) (now : τ) : TrackSample :=
  let portion := track.portion now
  if 1.0 ≤ portion then ⟨track.goal, true⟩
  else ⟨between (track.ease.progress portion) track.source track.goal, false⟩

/-- The track with its moment changed. -/
def mapTime {σ : Type} (f : τ → σ) (track : Track τ) : Track σ :=
  { track with start := f track.start }

end Track

/-- The tracks of one sprite, at most one for each action. -/
structure Tracks (τ : Type) where
  move : Option (Track τ) := none
  size : Option (Track τ) := none
  alpha : Option (Track τ) := none
  deriving DecidableEq, Repr, Inhabited

namespace Tracks

variable {τ : Type}

/-- The track for an action. -/
def get? (tracks : Tracks τ) : TrackAction → Option (Track τ)
  | .move => tracks.move
  | .size => tracks.size
  | .alpha => tracks.alpha

/-- Sets or removes the track for an action. -/
def put (tracks : Tracks τ) (action : TrackAction) (track : Option (Track τ)) : Tracks τ :=
  match action with
  | .move => { tracks with move := track }
  | .size => { tracks with size := track }
  | .alpha => { tracks with alpha := track }

/-- Whether no track is left. -/
def isEmpty (tracks : Tracks τ) : Bool :=
  TrackAction.all.all fun action => (tracks.get? action).isNone

/-- The tracks with their moments changed. -/
def mapTime {σ : Type} (f : τ → σ) (tracks : Tracks τ) : Tracks σ :=
  ⟨tracks.move.map (·.mapTime f), tracks.size.map (·.mapTime f), tracks.alpha.map (·.mapTime f)⟩

end Tracks
end VisualNovel
