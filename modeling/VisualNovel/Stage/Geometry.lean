import VisualNovel.Text.Basic
import VisualNovel.Number.Binary

/-!
Points, areas and the camera.

Things on the stage have places on the screen or in the world behind it. The camera scales the
world about the center of the screen and then moves it.
-/

namespace VisualNovel

/-- A point. -/
structure Point where
  x : Float
  y : Float
  deriving DecidableEq, Repr, Inhabited

/-- A rectangle by its upper left corner and its size. -/
structure Rect where
  x : Float
  y : Float
  width : Float
  height : Float
  deriving DecidableEq, Repr, Inhabited

/-- The size of the screen. -/
structure Screen where
  width : Float := 1280.0
  height : Float := 720.0
  deriving DecidableEq, Repr, Inhabited

/-- The camera: how far the world is moved, and how much it is enlarged. -/
structure Camera where
  panX : Float := 0.0
  panY : Float := 0.0
  zoom : Float := 1.0
  deriving DecidableEq, Repr, Inhabited

namespace Camera

/-- Where a point of the world is on the screen. -/
def toScreen (camera : Camera) (screen : Screen) (p : Point) : Point :=
  let cx := screen.width / 2.0
  let cy := screen.height / 2.0
  ⟨(p.x - cx) * camera.zoom + cx + camera.panX, (p.y - cy) * camera.zoom + cy + camera.panY⟩

/-- Which point of the world is at a point of the screen. -/
def toWorld (camera : Camera) (screen : Screen) (p : Point) : Point :=
  let cx := screen.width / 2.0
  let cy := screen.height / 2.0
  ⟨(p.x - camera.panX - cx) / camera.zoom + cx, (p.y - camera.panY - cy) / camera.zoom + cy⟩

end Camera

/-- Whether a point is inside a rectangle; the left and upper edges belong to it. -/
def Rect.holds (r : Rect) (p : Point) : Bool :=
  r.x ≤ p.x && p.x < r.x + r.width && r.y ≤ p.y && p.y < r.y + r.height

namespace Polygon

/-- Whether the ray from a point to the right crosses the edge between two corners. -/
def crosses (p corner previous : Point) : Bool :=
  (decide (p.y < corner.y) != decide (p.y < previous.y)) &&
    decide (p.x < ((previous.x - corner.x) * (p.y - corner.y)) / (previous.y - corner.y) + corner.x)

/-- The parity of the crossings along a list of corners, each with the one before it. -/
def parity (p : Point) (previous : Point) : List Point → Bool
  | [] => false
  | corner :: rest => crosses p corner previous != parity p corner rest

/-- Whether a point is inside a polygon by the even-odd rule. Fewer than three corners enclose
nothing. -/
def holds (corners : List Point) (p : Point) : Bool :=
  if corners.length < 3 then false
  else
    match corners.getLast? with
    | some last => parity p last corners
    | none => false

end Polygon

/-- The distance between two points. -/
def Point.distance (a b : Point) : Float := Number.length (a.x - b.x) (a.y - b.y)

/-- The upper left corner of something placed by anchor words: in the middle at the bottom of the
screen unless a word says otherwise. -/
def anchorPosition (anchor : Option Text) (size : Point) (screen : Screen) : Point :=
  let words := (anchor.getD []).splitOn (Text.unit ' ')
  let has := fun (word : String) => words.contains (Text.ofString word)
  let x :=
    if has "left" then 0.0
    else if has "right" then screen.width - size.x
    else (screen.width - size.x) / 2.0
  let y :=
    if has "top" then 0.0
    else if has "middle" then (screen.height - size.y) / 2.0
    else screen.height - size.y
  ⟨Number.round x, Number.round y⟩

end VisualNovel
