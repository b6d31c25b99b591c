import VisualNovel.Text.Basic

/-!
Tokens of a script and their places in its text.

A place is a line and a column, both counted from one; columns count units, and only a line feed
starts a new line. A span runs from the place of the first unit of a token to the place behind its
last one.
-/

namespace VisualNovel

/-- A place in a text. -/
structure Place where
  line : Nat
  column : Nat
  deriving DecidableEq, Repr, Inhabited

/-- The first place of a text. -/
def Place.start : Place := ⟨1, 1⟩

/-- The place behind one unit. -/
def Place.next (p : Place) (u : UInt16) : Place :=
  if u = Text.unit '\n' then ⟨p.line + 1, 1⟩ else ⟨p.line, p.column + 1⟩

/-- The place behind a stretch of text. -/
def Place.after (p : Place) (t : Text) : Place := t.foldl Place.next p

/-- A stretch of text by its ends; the second one is behind the last unit. -/
structure Span where
  first : Place
  behind : Place
  deriving DecidableEq, Repr, Inhabited

/-- The kinds of token. -/
inductive TokenKind where
  | word | string | number | color | arrow | op | semi | colon | lbrace | rbrace
  deriving DecidableEq, Repr, Inhabited

/-- All kinds of token. -/
def TokenKind.all : List TokenKind :=
  [.word, .string, .number, .color, .arrow, .op, .semi, .colon, .lbrace, .rbrace]

/-- The name of a kind. -/
def TokenKind.name : TokenKind → Text
  | .word => "word"
  | .string => "string"
  | .number => "number"
  | .color => "color"
  | .arrow => "arrow"
  | .op => "op"
  | .semi => "semi"
  | .colon => "colon"
  | .lbrace => "lbrace"
  | .rbrace => "rbrace"

/-- The name of a kind in capitals. -/
def TokenKind.tag : TokenKind → Text
  | .word => "WORD"
  | .string => "STRING"
  | .number => "NUMBER"
  | .color => "COLOR"
  | .arrow => "ARROW"
  | .op => "OP"
  | .semi => "SEMI"
  | .colon => "COLON"
  | .lbrace => "LBRACE"
  | .rbrace => "RBRACE"

/-- The kind with a name. -/
def TokenKind.ofName? (name : Text) : Option TokenKind :=
  TokenKind.all.find? fun kind => kind.name = name

/-- A token: its kind, its value and its span. The value of a string is its content with the
escapes replaced, that of any other token is what was written. -/
structure Token where
  kind : TokenKind
  value : Text
  span : Span
  deriving DecidableEq, Repr, Inhabited

/-- A text in double quotes, without escapes. -/
def inQuotes (t : Text) : Text := Text.unit '"' :: t ++ [Text.unit '"']

/-- How a message names the token that stands where another was expected. -/
def Token.describe : Option Token → Text
  | none => "end of input"
  | some token =>
    if token.kind = .string then Text.ofString "string " ++ inQuotes token.value
    else inQuotes token.value

end VisualNovel
