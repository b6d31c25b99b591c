import VisualNovel.Engine.Boundary

/-!
The view: what the text screen shows of a story.

Lines are typed unit by unit. A view holds the lines that are done, the line that is being typed
with the number of units typed so far, and the lines that are still to come; `View.step` never loses
one of them. Choices are shown through a window of `choiceRows` rows that follows the cursor.
-/

namespace VisualNovel

/-- The number of choices that are shown at once. -/
def choiceRows : Nat := 5

/-- What the text screen shows. -/
structure View where
  /-- The lines that are done. -/
  lines : List Text := []
  /-- The lines to come. -/
  pending : List Text := []
  /-- The line that is being typed. -/
  typing : Option Text := none
  /-- How many units of it are typed. -/
  typed : Nat := 0
  choices : List BoundaryChoice := []
  prompt : Option Text := none
  inputMode : Bool := false
  inputDefault : Option Text := none
  buffer : Text := []
  cursor : Nat := 0
  /-- The first choice that is shown. -/
  scroll : Nat := 0
  ended : Bool := false
  hud : Option Text := none
  notice : Text := "ready"
  deriving DecidableEq, Repr, Inhabited

/-- What happens to a view. -/
inductive ViewAction where
  /-- The story went on to a boundary. -/
  | boundary (boundary : Boundary) (hud : Option Text) (replace : Bool) (notice : Text)
  /-- The next unit is typed. -/
  | tick
  /-- All lines are shown at once. -/
  | flush
  /-- The cursor moves. -/
  | move (delta : Int)
  /-- Something is typed into the answer. -/
  | type (text : Text)
  /-- The last unit of the answer is erased. -/
  | erase
  /-- A notice is shown. -/
  | notice (text : Text)
  deriving DecidableEq, Repr, Inhabited

/-- A line with the meters, the number of items and the notice; nothing if there is nothing to
show. -/
def hudLine {τ : Type} (meters : Table Meter) (items : Nat)
    (notification : Option (Notification τ)) :
    Option Text :=
  let meterParts := meters.values.map fun m =>
    ScriptProblem.sentence [m.label, " ", Number.text m.value, "/", Number.text m.max]
  let itemPart := if items = 0 then [] else [Text.ofString "items " ++ Text.ofNat items]
  let parts := meterParts ++ itemPart ++ (notification.map (·.message)).toList
  if parts.isEmpty then none else some (Text.join " | " parts)

/-- The line of a state. -/
def State.hudLine {τ : Type} (s : State τ) : Option Text :=
  VisualNovel.hudLine s.meters s.inventory.size s.notification

namespace View

/-- Whether lines are still being typed. -/
def isStreaming (v : View) : Bool := v.typing.isSome || !v.pending.isEmpty

/-- The lines that are done, and the typed part of the line that is not. -/
def visible (v : View) : List Text :=
  v.lines ++ (v.typing.map fun t => t.take v.typed).toList

/-- All lines: done, being typed, and to come. -/
def transcript (v : View) : List Text := v.lines ++ v.typing.toList ++ v.pending

/-- Types the next unit, or begins or ends a line. -/
def tick (v : View) : View :=
  match v.typing, v.pending with
  | some line, _ =>
    if line.length ≤ v.typed then { v with lines := v.lines ++ [line], typing := none, typed := 0 }
    else { v with typed := v.typed + 1 }
  | none, next :: rest =>
    if next.isEmpty then { v with pending := rest, lines := v.lines ++ [next] }
    else { v with pending := rest, typing := some next, typed := 1 }
  | none, [] => v

/-- Shows all lines. -/
def flush (v : View) : View :=
  { v with lines := v.transcript, pending := [], typing := none, typed := 0 }

/-- The first choice to show, so that the cursor is among those shown. -/
def scrollFor (cursor scroll total : Nat) : Nat :=
  if total ≤ choiceRows then 0
  else if cursor < scroll then cursor
  else if scroll + choiceRows ≤ cursor then cursor - choiceRows + 1
  else scroll

/-- Moves the cursor, not past the ends. -/
def move (v : View) (delta : Int) : View :=
  if v.choices.isEmpty then { v with notice := "no pending choice" }
  else
    let last := v.choices.length - 1
    let cursor := min last (Int.ofNat v.cursor + delta).toNat
    { v with cursor, scroll := scrollFor cursor v.scroll v.choices.length }

/-- Shows a boundary. Its texts come behind those that are there, or in their place. -/
def goTo (v : View) (b : Boundary) (hud : Option Text) (replace : Bool) (notice : Text) : View :=
  { lines := if replace then [] else v.lines
    pending := if replace then b.texts else v.pending ++ b.texts
    typing := if replace then none else v.typing
    typed := if replace then 0 else v.typed
    choices := b.choices
    prompt := b.choicePrompt.or b.inputPrompt
    inputMode := b.event = .input
    inputDefault := b.inputDefault
    ended := b.event = .ended
    hud
    notice }

/-- What an action makes of a view. -/
def step (v : View) : ViewAction → View
  | .boundary b hud replace notice => v.goTo b hud replace notice
  | .tick => v.tick
  | .flush => v.flush
  | .move delta => v.move delta
  | .type text => { v with buffer := v.buffer ++ text }
  | .erase => { v with buffer := v.buffer.eraseLast }
  | .notice text => { v with notice := text }

/-- The first view of a story. -/
def start (b : Boundary) (hud : Option Text) : View := ({} : View).goTo b hud true "ready"

end View
end VisualNovel
