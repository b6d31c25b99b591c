import VisualNovel.Script.Statement.Basic

/-!
The definition of a character: a block of fields, each ended by a semicolon.

A field that is given twice counts as it was given last, and each sprite has an expression under
which it is shown.
-/

namespace VisualNovel.Statement

open Reader

/-- The color of a character: a color literal or a string. -/
def characterColor : Reader Text := do
  let token ← next
  match token.kind with
  | .color | .string => return token.value
  | _ => failAt (.expectedColor "character color" token.value) token.span

/-- One word of an anchor. -/
def anchorWord : Reader Text := do
  let token ← expect .word "anchor"
  if anchorWords.contains token.value then return token.value
  else failAt (.vocabulary "anchor" anchorWords token.value) token.span

/-- Adds the sprite for an expression. -/
def addSprite (sprites : Table Text) (expression path : Text) : Table Text :=
  if expression = unrecordedName then sprites else sprites.set expression path

/-- The value of a field, which changes the character. -/
def characterFieldValue (who : Character) (field : Token) : Reader Character := do
  let name := field.value
  if name = Text.ofString "name" then
    return { who with displayName := some (← expectString "character name") }
  else if name = Text.ofString "color" then
    return { who with color := some (← characterColor) }
  else if name = Text.ofString "voice" then
    return { who with voiceTag := some (← expectString "voice tag") }
  else if name = Text.ofString "pos" then
    return { who with pos := some (← point "x" "y") }
  else if name = Text.ofString "anchor" then
    return { who with anchor := some (Text.join " " (← run .word anchorWord)) }
  else if name = Text.ofString "z" then
    return { who with z := some (← expectInt "z order") }
  else if name = Text.ofString "float" then
    let amplitude ← expectNumber "float amplitude"
    let speed ← expectNumber "float speed"
    return { who with floating := ⟨some amplitude, some speed⟩ }
  else if name = Text.ofString "sprite" then
    let expression ← expectWord "sprite expression"
    let path ← expectString "sprite path"
    return { who with sprites := addSprite who.sprites expression path }
  else failAt (.unknownField name) field.span

/-- One field with its semicolon. -/
def characterField (who : Character) : Reader Character := do
  let field ← expect .word "character field"
  let changed ← characterFieldValue who field
  endStatement
  return changed

/-- The brace that closes a block, and a semicolon if one follows. -/
def closeBlock : Reader Unit := do
  let _ ← expect .rbrace (inQuotes "\x7d")
  let _ ← accept .semi none

/-- The definition of a character. -/
def define : Reader Command := do
  let ident ← expectWord "character id"
  let _ ← expect .lbrace (inQuotes "\x7b")
  let who ← gather (·.kind == some .rbrace) characterField { ident }
  closeBlock
  return .define who

end VisualNovel.Statement
