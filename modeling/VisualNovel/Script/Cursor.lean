import VisualNovel.Fault.Basic
import VisualNovel.Number.Numeral

/-!
A cursor over the tokens of a file.

Reading a statement moves the cursor forward, one token at a time, and never past the last token.
A step either takes tokens or fails with a fault at the token in front of the cursor; at the end of
the file that is the last token. A failed step leaves the cursor where it stood, except that a
number which should have been whole is already taken.
-/

namespace VisualNovel

/-- Tokens of a file and the number of those already taken. -/
structure Cursor where
  tokens : Array Token
  file : Text
  index : Nat := 0
  deriving Repr, Inhabited

/-- Reading with a cursor. -/
abbrev Reader := EStateM Fault Cursor

namespace Cursor

/-- Whether all tokens are taken. -/
def atEnd (c : Cursor) : Bool := c.tokens.size ≤ c.index

/-- The token at a distance from the cursor. -/
def peekAt (c : Cursor) (offset : Int) : Option Token :=
  let position := Int.ofNat c.index + offset
  if position < 0 then none else c.tokens[position.toNat]?

/-- The next token. -/
def peek (c : Cursor) : Option Token := c.tokens[c.index]?

/-- The kind of the token that is so many tokens further on. -/
def kindAhead (c : Cursor) (offset : Nat) : Option TokenKind :=
  (c.tokens[c.index + offset]?).map (·.kind)

/-- The kind of the next token. -/
def kind (c : Cursor) : Option TokenKind := c.kindAhead 0

/-- Whether a token is a word, and the given one if one is given. -/
def isWordToken (token : Option Token) (value : Option Text) : Bool :=
  match token with
  | some t => t.kind = .word && (value.isNone || value = some t.value)
  | none => false

/-- Whether the next token is the given word. -/
def isWord (c : Cursor) (value : Text) : Bool := isWordToken c.peek (some value)

/-- The span of the next token, of the last one at the end, and of nothing in an empty file. -/
def spanHere (c : Cursor) : Span :=
  match c.peek.orElse fun _ => c.tokens.back? with
  | some t => t.span
  | none => ⟨.start, .start⟩

/-- Whether a statement can end here. -/
def atStatementEnd (c : Cursor) : Bool :=
  match c.kind with
  | none | some .semi | some .rbrace => true
  | _ => false

/-- A fault in the file of the cursor. -/
def fault (c : Cursor) (problem : ScriptProblem) (span : Span) : Fault where
  cause := .script problem
  span := some span
  file := some c.file

end Cursor

namespace Reader

variable {α : Type}

/-- Fails at a span. -/
def failAt (problem : ScriptProblem) (span : Span) : Reader α :=
  fun c => .error (c.fault problem span) c

/-- Fails at the next token. -/
def fail (problem : ScriptProblem) : Reader α :=
  fun c => .error (c.fault problem c.spanHere) c

/-- Looks without taking anything. -/
def look (f : Cursor → α) : Reader α := fun c => .ok (f c) c

/-- Takes one token. -/
def skip : Reader Unit := fun c => .ok () { c with index := c.index + 1 }

/-- Takes the next token, whatever it is. -/
def next : Reader Token := do
  match ← look Cursor.peek with
  | some token => skip; return token
  | none => fail .endOfInput

/-- Takes a token of a kind. -/
def expect (kind : TokenKind) (what : Text) : Reader Token := do
  let found ← look Cursor.peek
  match found with
  | some token =>
    if token.kind = kind then skip; return token
    else fail (.expected kind what found)
  | none => fail (.expected kind what found)

/-- Takes a word. -/
def expectWord (what : Text) : Reader Text := do
  return (← expect .word what).value

/-- Takes the given word. -/
def expectKeyword (word : Text) : Reader Unit := do
  if ← look (·.isWord word) then skip
  else fail (.expectedKeyword word (← look Cursor.peek))

/-- Takes a string. -/
def expectString (what : Text) : Reader Text := do
  return (← expect .string what).value

/-- The number that a numeral token spells. -/
def numberOf (token : Token) : Float := (Number.ofNumeral? token.value).getD 0.0

/-- Takes a number. -/
def expectNumber (what : Text) : Reader Float := do
  return numberOf (← expect .number what)

/-- Takes a whole number. -/
def expectInt (what : Text) : Reader Float := do
  let token ← expect .number what
  let value := numberOf token
  if Number.isWhole value then return value
  else failAt (.expectedInteger what token.value) token.span

/-- Takes `true` or `false`. -/
def expectBool (what : Text) : Reader Bool := do
  if ← look (·.isWord "true") then skip; return true
  else if ← look (·.isWord "false") then skip; return false
  else fail (.expectedBool what (← look Cursor.peek))

/-- Takes the next token if it is of a kind, and of a value if one is given; says whether it did. -/
def accept (kind : TokenKind) (value : Option Text) : Reader Bool := do
  match ← look Cursor.peek with
  | some token =>
    if token.kind = kind && (value.isNone || value = some token.value) then skip; return true
    else return false
  | none => return false

/-- Takes the given word if it is next. -/
def acceptWord (word : Text) : Reader Bool := accept .word (some word)

/-- Takes the semicolon that ends a statement. -/
def endStatement : Reader Unit := do
  let _ ← expect .semi (inQuotes ";")

/-- The entry of a vocabulary under a word, or a fault that lists the vocabulary. -/
def oneOf (word : Text) (vocabulary : List (Text × α)) (domain : Text) (span : Span) : Reader α :=
  match vocabulary.lookup word with
  | some entry => pure entry
  | none => failAt (.vocabulary domain (vocabulary.map (·.1)) word) span

/-- Takes a word of a vocabulary. -/
def expectOneOf (what : Text) (vocabulary : List (Text × α)) (domain : Text) : Reader α := do
  let token ← expect .word what
  oneOf token.value vocabulary domain token.span

end Reader
end VisualNovel
