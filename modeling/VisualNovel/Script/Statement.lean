import VisualNovel.Script.Statement.Audio
import VisualNovel.Script.Statement.Character
import VisualNovel.Script.Statement.Interface
import VisualNovel.Script.Statement.Story
import VisualNovel.Script.Statement.Visual

/-!
The statements of a file.

Most statements give one command and are found under the word they begin with (`plainStatements`).
The others change what is gathered of the file as a whole, its `Draft`: a label, an include, a check
or loading block with statements of its own, a call of another script. The commands of a block are
put in line: a check block becomes a jump over its commands to a label that no script can write,
numbered so that no two of one load are the same.
-/

namespace VisualNovel

/-- A file to be included, and the name that scopes its labels. -/
structure Include where
  path : Text
  scope : Text
  deriving DecidableEq, Repr, Inhabited

/-- What is gathered of a file. -/
structure Draft where
  cursor : Cursor
  /-- The number of the last check block of this load. -/
  counter : Ordinal
  commands : Array Command := #[]
  labels : Table Nat := {}
  includes : List Include := []
  deriving Repr, Inhabited

/-- Reading statements into a draft. -/
abbrev Builder := EStateM Fault Draft

namespace Builder

variable {α : Type}

/-- Reads with the cursor of the draft. -/
def read (r : Reader α) : Builder α := fun d =>
  match r d.cursor with
  | .ok a c => .ok a { d with cursor := c }
  | .error f c => .error f { d with cursor := c }

/-- Looks at the cursor of the draft. -/
def look (f : Cursor → α) : Builder α := fun d => .ok (f d.cursor) d

/-- Fails at the next token. -/
def fail (problem : ScriptProblem) : Builder α := read (Reader.fail problem)

/-- Fails at a span. -/
def failAt (problem : ScriptProblem) (span : Span) : Builder α := read (Reader.failAt problem span)

/-- Adds a command that is no label. -/
def push (command : Command) : Builder Unit :=
  modify fun d => { d with commands := d.commands.push command }

/-- The labels with one more; the unrecorded name is left out. -/
def setLabel (labels : Table Nat) (name : Text) (index : Nat) : Table Nat :=
  if name = unrecordedName then labels else labels.set name index

/-- Adds a label, which must be new. -/
def label (name : Text) : Builder Unit := do
  if (← get).labels.contains name then fail (.duplicateLabel name)
  modify fun d => { d with labels := setLabel d.labels name d.commands.size }
  push (.label name)

/-- The absolute path of a script that is named relative to this file; there must be a file. -/
def resolveScript (files : FileTree) (path : Text) : Builder Text := do
  let file ← look Cursor.file
  let resolved := Path.resolve (Path.directory file) path
  if files.isFile resolved then return resolved else fail (.fileNotFound path resolved)

end Builder

namespace Statement

open Reader (expect expectWord expectString expectKeyword endStatement oneOf operand acceptWord)

/-! ## 1. Statements of one command -/

/-- The statements that give one command, by their first words. -/
def plainWords : List (String × Reader Command) :=
  [("go", jump), ("goto", jump), ("scene", scene), ("add", sprite "add"), ("show", appearance),
    ("off", off), ("camera", camera), ("animate", animate), ("play", play), ("sound", sound),
    ("echo", echo), ("voice", voice), ("mute", mute), ("preload", preload), ("cache", cache),
    ("gc", collect), ("wait", wait), ("notify", notify), ("blend", blend), ("save", save),
    ("load", load), ("set", set), ("track", track), ("input", input), ("phone", phone),
    ("meter", meter), ("item", item), ("map", map), ("video", video), ("hotspot", hotspot),
    ("hud", hud), ("character", define), ("ask", ask)]

/-- The statements that give one command, by the texts of their first words. -/
def plainStatements : List (Text × Reader Command) :=
  plainWords.map fun (word, reader) => (Text.ofString word, reader)

/-! ## 2. Blocks and files -/

/-- The part of a label name that only check blocks use. -/
def checkMark : Text := "__check_skip_"

/-- The condition of a check. -/
def condition : Reader (Text × CompareOp × Operand) := do
  let name ← expectWord "variable name"
  let token ← expect .op "comparison operator"
  let op ← oneOf token.value (CompareOp.all.map fun op => (op.symbol, op)) "check operator"
    token.span
  let value ← operand "comparison value"
  return (name, op, value)

/-- The target of a check without a block. -/
def checkTarget : Reader Text := do
  if !(← acceptWord "go") then
    if !(← acceptWord "goto") then
      Reader.fail .checkForm
  let target ← expectWord "jump target"
  endStatement
  return target

/-- A check: a conditional jump, or a block that is jumped over when the condition fails. -/
def check (body : Builder Unit) : Builder Unit := do
  let (name, op, value) ← Builder.read condition
  if (← Builder.look Cursor.kind) = some .lbrace then
    modify fun d => { d with counter := d.counter.next }
    let skip := checkMark ++ (← get).counter.text
    Builder.push (.jumpIf name op.negate value skip)
    body
    Builder.label skip
  else
    let target ← Builder.read checkTarget
    Builder.push (.jumpIf name op value target)

/-- A loading block: its commands between a beginning and an end. -/
def loading (body : Builder Unit) : Builder Unit := do
  let text ← Builder.read (expectString "loading text")
  Builder.push (.beginLoading (some text))
  body
  Builder.push .endLoading

/-- The story goes on at a label of another script. -/
def call (files : FileTree) : Builder Unit := do
  let path ← Builder.read (expectString "script path")
  let label ← Builder.read (expectWord "entry label")
  Builder.read endStatement
  let resolved ← Builder.resolveScript files path
  Builder.push (.call path resolved label)

/-- The path and the scope of an include. -/
def includeHead : Reader (Text × Text) := do
  let path ← expectString "include path"
  expectKeyword "as"
  let scope ← expectWord "include alias"
  endStatement
  return (path, scope)

/-- Another file becomes part of this one. Its commands come behind those of this file. -/
def includeFile (files : FileTree) : Builder Unit := do
  let keyword ← Builder.read Reader.next
  if !(← get).commands.isEmpty then Builder.failAt .includeOrder keyword.span
  let (path, scope) ← Builder.read includeHead
  if (← get).includes.any (·.scope = scope) then Builder.failAt (.duplicateAlias scope) keyword.span
  let resolved ← Builder.resolveScript files path
  modify fun d => { d with includes := d.includes ++ [⟨resolved, scope⟩] }

/-- A label that begins with the word `label`. -/
def labelStatement : Builder Unit := do
  Builder.read Reader.skip
  let name ← Builder.read (expectWord "label name")
  let _ ← Builder.read (expect .colon (inQuotes ":"))
  Builder.label name

/-! ## 3. All statements -/

/-- A statement that begins with a word; `body` reads a block. -/
def ofWord (files : FileTree) (body : Builder Unit) (token : Token) : Builder Unit := do
  let word := token.value
  let ahead ← Builder.look fun c => (c.kindAhead 1, c.kindAhead 2)
  if word = Text.ofString "label" && ahead = (some .word, some .colon) then labelStatement
  else if word = Text.ofString "include" then includeFile files
  else if word = Text.ofString "check" then do Builder.read Reader.skip; check body
  else if word = Text.ofString "loading" then do Builder.read Reader.skip; loading body
  else if word = Text.ofString "call" then do Builder.read Reader.skip; call files
  else
    match plainStatements.lookup word with
    | some reader => do
      Builder.read Reader.skip
      Builder.push (← Builder.read reader)
    | none =>
      if ahead.1 = some .string then do
        Builder.read Reader.skip
        Builder.push (← Builder.read (say (some word)))
      else Builder.failAt (.unknownCommand word) token.span

/-- One statement; `body` reads a block. -/
def one (files : FileTree) (body : Builder Unit) : Builder Unit := do
  match ← Builder.look Cursor.peek with
  | none => pure ()
  | some token =>
    match token.kind with
    | .semi => Builder.read Reader.skip
    | .string => Builder.push (← Builder.read (say none))
    | .word => ofWord files body token
    | _ => Builder.fail (.unexpectedStart token.value)

/-- A block around its statements. -/
def inBraces (statements : Builder Unit) : Builder Unit := do
  let _ ← Builder.read (expect .lbrace (inQuotes "\x7b"))
  statements
  Builder.read closeBlock

/-- The statements of a block up to its closing brace. Each statement takes at least one token, and
so does the opening of a block within. -/
def inBlock (files : FileTree) : Nat → Builder Unit
  | 0 => Builder.fail .stalled
  | fuel + 1 => do
    if (← Builder.look Cursor.kind) = some .rbrace then return
    if ← Builder.look Cursor.atEnd then Builder.fail .openBlock
    one files (inBraces (inBlock files fuel))
    inBlock files fuel

/-- The statements of a file. -/
def inFile (files : FileTree) : Nat → Builder Unit
  | 0 => Builder.fail .stalled
  | fuel + 1 => do
    if ← Builder.look Cursor.atEnd then return
    if (← Builder.look Cursor.kind) = some .rbrace then Builder.fail .strayBrace
    one files (inBraces (inBlock files fuel))
    inFile files fuel

end Statement
end VisualNovel
