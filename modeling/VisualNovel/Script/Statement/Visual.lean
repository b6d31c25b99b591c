import VisualNovel.Script.Statement.Basic

/-!
Statements about what is on the stage: backgrounds, sprites, characters, the camera, movements.

After its positional arguments such a statement takes modifiers in any order. They are gathered
first and distributed afterwards; numbers without a word in front of them are the size of a flat
sprite or a position.
-/

namespace VisualNovel.Statement

open Reader

/-! ## 1. Modifiers -/

/-- The modifiers of a statement, gathered. -/
structure Modifiers where
  z : Option Float := none
  transition : TransitionSpec := {}
  floating : Floating := {}
  size : Option Point := none
  pos : Option Point := none
  anchors : List Text := []
  numbers : List Float := []
  deriving DecidableEq, Repr, Inhabited

namespace Modifiers

/-- The anchor words as one text. -/
def anchor (m : Modifiers) : Option Text :=
  if m.anchors.isEmpty then none else some (Text.join " " m.anchors)

/-- The words that begin a modifier of their own. -/
def words : List Text := ["z", "fade", "float", "size", "pos"]

/-- The styles of a transition by their words. -/
def styles : List (Text × TransitionStyle) := TransitionStyle.all.map fun s => (s.word, s)

/-- The modifier that begins with a word. -/
def ofWord (domain : Text) (m : Modifiers) (token : Token) : Reader Modifiers := do
  let word := token.value
  if word = Text.ofString "z" then
    return { m with z := some (← expectInt "z order") }
  else if word = Text.ofString "fade" then
    let seconds ← expectNumber "fade seconds"
    return { m with transition := ⟨some seconds, some .fade, some seconds⟩ }
  else if word = Text.ofString "float" then
    let amplitude ← expectNumber "float amplitude"
    let speed ← expectNumber "float speed"
    return { m with floating := ⟨some amplitude, some speed⟩ }
  else if word = Text.ofString "size" then
    return { m with size := some (← point "width" "height") }
  else if word = Text.ofString "pos" then
    return { m with pos := some (← point "x" "y") }
  else if anchorWords.contains word then
    return { m with anchors := m.anchors ++ [word] }
  else if (← look Cursor.kind) = some .number then
    let style ← oneOf word styles (domain ++ Text.ofString " transition style") token.span
    let seconds ← expectNumber "transition seconds"
    return { m with
      transition := { m.transition with style := some style, seconds := some seconds } }
  else failAt (.unexpectedIn word domain) token.span

/-- One more modifier. -/
def step (domain : Text) (m : Modifiers) : Reader Modifiers := do
  let token ← next
  match token.kind with
  | .number => return { m with numbers := m.numbers ++ [numberOf token] }
  | .word => ofWord domain m token
  | _ => failAt (.unexpectedIn token.value domain) token.span

/-- The modifiers up to the end of a statement. -/
def read (domain : Text) : Reader Modifiers := gather Cursor.atStatementEnd (step domain) {}

end Modifiers

/-- The position that two numbers give; no numbers give none. -/
def pairFrom (numbers : List Float) (what : Text) : Reader (Option Point) :=
  match numbers with
  | [] => pure none
  | [x, y] => pure (some ⟨x, y⟩)
  | _ => fail (.twoNumbers what numbers.length)

/-- The position of a `pos` modifier, or else that of the bare numbers. -/
def positionOf (m : Modifiers) (numbers : List Float) (what : Text) : Reader (Option Point) :=
  match m.pos with
  | some p => pure (some p)
  | none => pairFrom numbers what

/-- Refuses numbers without a word. -/
def noBareNumbers (m : Modifiers) (domain : Text) : Reader Unit :=
  if m.numbers.isEmpty then pure () else fail (.bareNumber domain)

/-! ## 2. Backgrounds and sprites -/

/-- A new background. -/
def scene : Reader Command := do
  let kind ← expectOneOf "scene kind" [("color", SceneKind.color), ("image", .image)] "scene kind"
  let value ←
    match kind with
    | .color => color "scene color"
    | .image => expectString "scene image path"
  let m ← Modifiers.read "scene"
  noBareNumbers m "scene"
  endStatement
  return .scene kind value m.transition m.floating

/-- The size of a flat sprite and the numbers left over; other sprites need no size. -/
def sizeOf (kind : AssetKind) (m : Modifiers) : Reader (Option Point × List Float) :=
  match kind, m.size with
  | .rect, none =>
    match m.numbers with
    | width :: height :: rest => pure (some ⟨width, height⟩, rest)
    | _ => fail .rectSize
  | _, size => pure (size, m.numbers)

/-- A sprite that shows an image or a flat rectangle. -/
def sprite (domain : Text) : Reader Command := do
  let kind ← expectOneOf "sprite kind" [("image", AssetKind.image), ("rect", .rect)]
    (domain ++ Text.ofString " kind")
  let name ← expectWord "sprite name"
  let value ←
    match kind with
    | .rect => color "rect color"
    | .image => expectString "image path"
  let m ← Modifiers.read domain
  let (size, numbers) ← sizeOf kind m
  let pos ← positionOf m numbers (domain ++ Text.ofString " position")
  endStatement
  return .show
    { kind, name, value, size, pos, anchor := m.anchor, z := m.z, transition := m.transition,
      floating := m.floating }

/-- Whether the next token is an expression: a word that begins no modifier. -/
def atExpression (c : Cursor) : Bool :=
  match c.peek with
  | some token =>
    token.kind = .word && !Modifiers.words.contains token.value &&
      !anchorWords.contains token.value &&
      !((TransitionStyle.ofWord? token.value).isSome && c.kindAhead 1 = some .number)
  | none => false

/-- A character on the stage. -/
def character : Reader Command := do
  let ident ← expectWord "character id"
  let expression ←
    if ← look atExpression then some <$> expectWord "expression" else pure none
  let m ← Modifiers.read "show"
  let pos ← positionOf m m.numbers "show position"
  endStatement
  return .showCharacter
    { ident, expression, pos, anchor := m.anchor, z := m.z, transition := m.transition,
      floating := m.floating }

/-- A sprite or a character: `image` and `rect` begin a sprite when a word follows. -/
def appearance : Reader Command := do
  if ← look fun c => (c.isWord "image" || c.isWord "rect") && c.kindAhead 1 = some .word then
    sprite "show"
  else character

/-- A sprite leaves. -/
def off : Reader Command := do
  let name ← expectWord "sprite name"
  let m ← Modifiers.read "off"
  noBareNumbers m "off"
  endStatement
  return .hide name m.transition

/-! ## 3. Camera and movement -/

/-- The camera moves. -/
def camera : Reader Command := do
  if ← acceptWord "reset" then
    endStatement
    return .camera {}
  let panX ← expectNumber "camera pan x"
  let panY ← expectNumber "camera pan y"
  let zoom ← expectNumber "camera zoom"
  if zoom ≤ 0.0 then fail .zoomRange
  endStatement
  return .camera ⟨panX, panY, zoom⟩

/-- How a movement is spread over its time. -/
def ease : Reader Ease := do
  if (← look Cursor.kind) = some .word then
    let token ← next
    oneOf token.value (Ease.all.map fun e => (e.word, e)) "animate ease" token.span
  else return .linear

/-- The kinds of movement. -/
inductive MovementKind where
  | move | size | alpha

/-- What a movement leads to. -/
def goal : MovementKind → Reader AnimationGoal
  | .move => do return .move (← point "animate x" "animate y")
  | .size => do return .size (← point "animate x" "animate y")
  | .alpha => do return .alpha (← expectNumber "alpha value")

/-- A movement of a sprite, or the end of movements. -/
def animate : Reader Command := do
  if ← acceptWord "stop" then
    let name ← optionalWord "sprite name"
    endStatement
    return .stopAnimation name
  let name ← expectWord "sprite name"
  let kind ← expectOneOf "animate action"
    [("move", MovementKind.move), ("size", .size), ("alpha", .alpha)] "animate action"
  let goal ← goal kind
  let seconds ← expectNumber "animate seconds"
  let ease ← ease
  endStatement
  return .animate name goal seconds ease

/-- A transition of the whole picture. -/
def blend : Reader Command := do
  let style ← expectOneOf "blend style" Modifiers.styles "blend style"
  let seconds ← expectNumber "blend seconds"
  endStatement
  return .blend style seconds

end VisualNovel.Statement
