import VisualNovel.Json.Basic
import VisualNovel.Stage.Geometry
import VisualNovel.Story.Value

/-!
Small things in JSON: points and rectangles as arrays of numbers, values of variables, and values
that are named by words. The readers of numbers take the reader of one number as an argument,
because a save file may hold finite numbers only.
-/

namespace VisualNovel.Json

/-- A point. -/
def ofPoint (p : Point) : Json := .arr [.num p.x, .num p.y]

/-- A list of points. -/
def ofPoints (ps : List Point) : Json := .arr (ps.map ofPoint)

/-- A rectangle. -/
def ofRect (r : Rect) : Json := .arr [.num r.x, .num r.y, .num r.width, .num r.height]

/-- The value of a variable. -/
def ofValue : Value → Json
  | .num x => .num x
  | .str t => .str t
  | .bool b => .bool b

/-- A list of texts. -/
def ofTexts (ts : List Text) : Json := .arr (ts.map .str)

/-- One of a list of values, by its word. -/
def worded? {α : Type} (all : List α) (word : α → Text) (j : Json) : Option α :=
  j.text?.bind fun t => all.find? fun a => word a = t

/-- A point. -/
def point? (number : Json → Option Float) (j : Json) : Option Point :=
  match j.list? number with
  | some [x, y] => some ⟨x, y⟩
  | _ => none

/-- A rectangle. -/
def rect? (number : Json → Option Float) (j : Json) : Option Rect :=
  match j.list? number with
  | some [x, y, width, height] => some ⟨x, y, width, height⟩
  | _ => none

/-- The value of a variable. -/
def storyValue? (number : Json → Option Float) : Json → Option Value
  | .num x => (number (.num x)).map .num
  | .str t => some (.str t)
  | .bool b => some (.bool b)
  | _ => none

/-- A field that is left out without a value. -/
def given (name : String) (value : Option Json) : List (String × Json) :=
  match value with
  | some j => [(name, j)]
  | none => []

/-- A text that is left out without a value. -/
def givenText (name : String) (t : Option Text) : List (String × Json) := given name (t.map .str)

/-- A number that is left out without a value. -/
def givenNum (name : String) (x : Option Float) : List (String × Json) := given name (x.map .num)

/-- A point that is left out without a value. -/
def givenPoint (name : String) (p : Option Point) : List (String × Json) :=
  given name (p.map ofPoint)

/-- The text of a field, if it is there. -/
def textField? (j : Json) (name : String) : Option Text := j.need name text?

/-- The number of a field, if it is there. -/
def numField? (j : Json) (name : String) : Option Float := j.need name num?

/-- The point of a field, if it is there. -/
def pointField? (j : Json) (name : String) : Option Point := j.need name (point? num?)

/-- The points of a field, if they are there. -/
def pointsField? (j : Json) (name : String) : Option (List Point) :=
  j.need name (list? (point? num?))

/-- The rectangle of a field, if it is there. -/
def rectField? (j : Json) (name : String) : Option Rect := j.need name (rect? num?)

end VisualNovel.Json
