import VisualNovel.Script.Command
import VisualNovel.Script.Cursor

/-!
What statements of several kinds have in common: repetition, colors, operands, targets, areas.

A repetition runs a step until the cursor shows that it is over. Each step takes at least one token,
so one more turn than there are tokens left is always enough.
-/

namespace VisualNovel.Reader

variable {α σ : Type}

/-- Repeats a step at most so many times, until the cursor shows that it is over. -/
def repeatUntil (done : Cursor → Bool) (step : σ → Reader σ) : Nat → σ → Reader σ
  | 0, _ => fail .stalled
  | fuel + 1, s => do
    if ← look done then return s
    else repeatUntil done step fuel (← step s)

/-- Repeats a step that takes tokens, until the cursor shows that it is over. -/
def gather (done : Cursor → Bool) (step : σ → Reader σ) (start : σ) : Reader σ := do
  repeatUntil done step (← look fun c => c.tokens.size - c.index + 1) start

/-- Takes a word if one is next. -/
def optionalWord (what : Text) : Reader (Option Text) := do
  if (← look Cursor.kind) = some .word then return some (← expectWord what) else return none

/-- Takes the tokens of a kind that come next, last first. -/
def run (kind : TokenKind) (step : Reader α) : Reader (List α) := do
  let taken ← gather (·.kind != some kind) (fun done => do return (← step) :: done) []
  return taken.reverse

/-- A color: a color literal, a string or a bare word. -/
def color (what : Text) : Reader Text := do
  let token ← next
  match token.kind with
  | .color | .string | .word => return token.value
  | _ => failAt (.expectedColor what token.value) token.span

/-- A word that is not a keyword of values: a variable behind a dollar sign, or the word itself. -/
def wordOperand (word : Text) : Operand :=
  if word = Text.ofString "true" then .literal (.bool true)
  else if word = Text.ofString "false" then .literal (.bool false)
  else
    match word with
    | u :: v :: rest => if u = Text.unit '$' then .ref (v :: rest) else .literal (.str word)
    | _ => .literal (.str word)

/-- A value: a number, a string, a color, a word, or the name of a variable behind a dollar sign. -/
def operand (what : Text) : Reader Operand := do
  let token ← next
  match token.kind with
  | .number => return .literal (.num (numberOf token))
  | .string | .color => return .literal (.str token.value)
  | .word => return wordOperand token.value
  | _ => failAt (.expectedValue what token.value) token.span

/-- An arrow and the label it leads to. -/
def target : Reader Text := do
  let _ ← expect .arrow (inQuotes "->")
  expectWord "target label"

/-- A point. -/
def point (first second : Text) : Reader Point := do
  let x ← expectNumber first
  let y ← expectNumber second
  return ⟨x, y⟩

/-- A rectangle. -/
def rect : Reader Rect := do
  let x ← expectNumber "x"
  let y ← expectNumber "y"
  let width ← expectNumber "width"
  let height ← expectNumber "height"
  return ⟨x, y, width, height⟩

/-- Numbers taken two at a time. -/
def pairs : List Float → List Point
  | x :: y :: rest => ⟨x, y⟩ :: pairs rest
  | _ => []

/-- The points of a list of coordinates. -/
def points (what : Text) : Reader (List Point) := do
  let numbers ← run .number (expectNumber what)
  if numbers.length % 2 = 0 then return pairs numbers
  else fail (.oddNumbers what numbers.length)

end VisualNovel.Reader
