import VisualNovel.Clock
import VisualNovel.Stage.Geometry

/-!
Assets: the pictures, sounds and videos of a story.

The engine does not draw or play anything. It sends requests, and a list of the requests so far is
all that is kept of them. A store of assets answers two questions: how large a picture is, and what
a video shows at a moment.
-/

namespace VisualNovel

/-- Something that can be drawn. -/
structure Surface where
  width : Float
  height : Float
  deriving DecidableEq, Repr, Inhabited

/-- A request to the store of assets. -/
inductive AssetRequest where
  | loadImage (path kind : Text)
  | makeColorSurface (color : Text) (size : Point)
  | makeRectSurface (color : Text) (size : Point)
  | playSound (path : Text)
  | playMusic (path : Text) (loop : Bool)
  | playEcho (path : Text)
  | stopEcho
  | playVoice (path : Text)
  | mute (target : Text)
  | clearImages
  | clearSounds
  | clearAll
  | pruneImages (keep : List Text)
  | pruneSounds (keep : List Text)
  | pinImage (path kind : Text)
  | unpinImage (path kind : Text)
  | pinSound (path : Text)
  | unpinSound (path : Text)
  | preloadImage (path kind : Text)
  | preloadSound (path : Text)
  | openVideo (path : Text) (loop : Bool)
  /-- A look at the video that the request of this number opened. -/
  | lookVideo (opening : Nat)
  | closeVideo (path : Text) (opening : Nat)
  deriving DecidableEq, Repr, Inhabited

namespace AssetRequest

/-- The name of a request. -/
def name : AssetRequest → Text
  | .loadImage .. => "loadImage"
  | .makeColorSurface .. => "makeColorSurface"
  | .makeRectSurface .. => "makeRectSurface"
  | .playSound _ => "playSound"
  | .playMusic .. => "playMusic"
  | .playEcho _ => "playEcho"
  | .stopEcho => "stopEcho"
  | .playVoice _ => "playVoice"
  | .mute _ => "mute"
  | .clearImages => "clearImages"
  | .clearSounds => "clearSounds"
  | .clearAll => "clearAll"
  | .pruneImages _ => "pruneImages"
  | .pruneSounds _ => "pruneSounds"
  | .pinImage .. => "pinImage"
  | .unpinImage .. => "unpinImage"
  | .pinSound _ => "pinSound"
  | .unpinSound _ => "unpinSound"
  | .preloadImage .. => "preloadImage"
  | .preloadSound _ => "preloadSound"
  | .openVideo .. => "video.create"
  | .lookVideo _ => "video.update"
  | .closeVideo .. => "video.close"

/-- The requests of a name, in order. -/
def called (requests : List AssetRequest) (name : Text) : List AssetRequest :=
  requests.filter fun r => r.name = name

end AssetRequest

/-- Texts in the order of their units, each once. -/
def sortedOnce (texts : List Text) : List Text :=
  let sorted := texts.mergeSort fun a b => decide (a ≤ b)
  sorted.foldr (fun t rest => if rest.head? = some t then rest else t :: rest) []

/-- Where the asset of a kind is found. -/
def assetPath (root kind path : Text) : Text := Text.join "/" [root, kind, path]

/-! ## Videos -/

/-- What a video shows at a moment, and whether it is over. -/
structure VideoFrame where
  picture : Option Surface
  finished : Bool
  deriving DecidableEq, Repr, Inhabited

/-- A video that plays: what it is, the number of the request that opened it, and the moments at which
it was looked at, the latest first. The first moment and their number are kept at hand. -/
structure Playback (τ : Type) where
  path : Text
  loop : Bool
  opening : Nat := 0
  looks : List τ := []
  first : Option τ := none
  count : Nat := 0
  deriving DecidableEq, Repr, Inhabited

/-- A player of videos: what a playback shows, as it depends on the moments at which it was looked
at. -/
structure VideoPlayer (τ : Type) where
  frame : Playback τ → VideoFrame

/-- Looks at a video at a moment. -/
def VideoPlayer.look {τ : Type} (player : VideoPlayer τ) (playback : Playback τ) (now : τ) :
    VideoFrame × Playback τ :=
  let seen :=
    { playback with
      looks := now :: playback.looks
      first := some (playback.first.getD now)
      count := playback.count + 1 }
  (player.frame seen, seen)

end VisualNovel
