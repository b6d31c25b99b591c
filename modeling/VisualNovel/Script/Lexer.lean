import VisualNovel.Fault.Basic

/-!
From the text of a script to its tokens.

`Lexer.step` looks at the front of a text and decides what stands there: something to skip, a
token, or a problem, each with the number of units that it takes. `tokenize` repeats that step from
the start of the text and turns the counts into places. Each step but one takes at least one unit:
two points before a digit read as a numeral of no units at all, and there the lexer goes on for
ever. The length of the text bounds the repetition, which is enough wherever it ends at all. Where
it does not, a fault stands for the endless loop, and nothing handles it (`Fault.isEndless`).

`//` opens a comment up to the end of its line. `#` does so only before a blank or at the end of the
text, and opens a color otherwise.
-/

namespace VisualNovel.Lexer

open VisualNovel.Text (unit)

/-! ## 1. Classes of units -/

/-- The blanks between tokens. -/
def isGap (u : UInt16) : Bool := u = unit ' ' || u = unit '\t' || u = unit '\r' || u = unit '\n'

/-- The first unit of a word. -/
def isWordStart (u : UInt16) : Bool := Text.isLetter u || u = unit '_' || u = unit '$'

/-- A further unit of a word. -/
def isWordPart (u : UInt16) : Bool :=
  Text.isLetter u || Text.isDigit u || u = unit '_' || u = unit '.'

/-- Whether a text begins with a unit of a class. -/
def headIs (p : UInt16 → Bool) : Text → Bool
  | [] => false
  | u :: _ => p u

/-! ## 2. One step -/

/-- What stands at the front of a text, and how many units it takes. -/
inductive Step where
  /-- A blank or a comment. -/
  | skip (count : Nat)
  /-- A token. -/
  | token (kind : TokenKind) (value : Text) (count : Nat)
  /-- A problem, found after so many units. -/
  | fail (problem : ScriptProblem) (count : Nat)
  deriving Repr

/-- The number of units up to the end of the line. -/
def lineLength (t : Text) : Nat := (t.takeWhile (· ≠ unit '\n')).length

/-- The numbers of digits that a color can have. -/
def colorLengths : List Nat := [3, 4, 6, 8]

/-- A color, from behind its `#`. -/
def colorStep (rest : Text) : Step :=
  let hex := rest.takeWhile Text.isHexDigit
  let after := rest.dropWhile Text.isHexDigit
  if colorLengths.contains hex.length && !headIs isWordPart after then
    .token .color (unit '#' :: hex) (hex.length + 1)
  else .fail (.badColor (unit '#' :: hex ++ after.take 1)) (hex.length + 1)

/-- The unit that a letter after a backslash stands for in a string. -/
def escapedUnit? (u : UInt16) : Option UInt16 :=
  if u = unit '"' then some (unit '"')
  else if u = unit '\\' then some (unit '\\')
  else if u = unit 'n' then some (unit '\n')
  else if u = unit 't' then some (unit '\t')
  else none

/-- A string, from behind its opening quote; `done` holds its content so far, last unit first, and
`count` the units taken. -/
def stringStep (done : Text) (count : Nat) : Text → Step
  | [] => .fail (.openString .input) count
  | u :: rest =>
    if u = unit '"' then .token .string done.reverse (count + 1)
    else if u = unit '\\' then
      match rest with
      | [] => .fail (.badEscape [unit '\\']) (count + 1)
      | v :: after =>
        match escapedUnit? v with
        | some w => stringStep (w :: done) (count + 2) after
        | none => .fail (.badEscape [unit '\\', v]) (count + 1)
    else if u = unit '\n' then .fail (.openString .line) (count + 1)
    else stringStep (u :: done) (count + 1) rest

/-- Whether a numeral stands at the front: a digit, or a sign or point with a digit behind it,
where one more point may stand in between. -/
def startsNumber : Text → Bool
  | [] => false
  | u :: rest =>
    Text.isDigit u ||
      ((u = unit '-' || u = unit '+' || u = unit '.') &&
        (headIs Text.isDigit rest ||
          (headIs (· = unit '.') rest && headIs Text.isDigit (rest.drop 1))))

/-- The point and the digits behind it, if a digit follows the point. -/
def fractionOf (t : Text) : Text :=
  if headIs (· = unit '.') t && headIs Text.isDigit (t.drop 1) then
    unit '.' :: (t.drop 1).takeWhile Text.isDigit
  else []

/-- The longest numeral at the front: a sign, digits, and a point with digits. -/
def numeralOf (t : Text) : Text :=
  let sign := if headIs (fun u => u = unit '-' || u = unit '+') t then t.take 1 else []
  let body := t.drop sign.length
  let whole := body.takeWhile Text.isDigit
  sign ++ whole ++ fractionOf (body.dropWhile Text.isDigit)

/-- A numeral, which no word may follow directly. -/
def numberStep (t : Text) : Step :=
  let numeral := numeralOf t
  let after := t.drop numeral.length
  if headIs isWordStart after then .fail (.badNumber (numeral ++ after.take 1)) numeral.length
  else .token .number numeral numeral.length

/-- What stands at the front of a text. -/
def step : Text → Step
  | [] => .skip 0
  | u :: rest =>
    if isGap u then .skip 1
    else if u = unit '/' && headIs (· = unit '/') rest then .skip (lineLength (u :: rest))
    else if u = unit '#' then
      if rest.isEmpty || headIs isGap rest then .skip (lineLength (u :: rest)) else colorStep rest
    else if u = unit '"' then stringStep [] 1 rest
    else if u = unit '-' && headIs (· = unit '>') rest then .token .arrow "->" 2
    else if startsNumber (u :: rest) then numberStep (u :: rest)
    else if u = unit ':' && headIs (· = unit ':') rest && headIs isWordStart (rest.drop 1) then
      let name := (rest.drop 1).takeWhile isWordPart
      .token .word (Text.ofString "::" ++ name) (name.length + 2)
    else if isWordStart u then
      let name := rest.takeWhile isWordPart
      .token .word (u :: name) (name.length + 1)
    else if (u = unit '=' || u = unit '!') && headIs (· = unit '=') rest then
      .token .op [u, unit '='] 2
    else if u = unit '>' || u = unit '<' then
      if headIs (· = unit '=') rest then .token .op [u, unit '='] 2 else .token .op [u] 1
    else if u = unit ';' then .token .semi [u] 1
    else if u = unit ':' then .token .colon [u] 1
    else if u = unit '\x7b' then .token .lbrace [u] 1
    else if u = unit '\x7d' then .token .rbrace [u] 1
    else .fail (.strayUnit u) 0

/-! ## 3. All steps -/

/-- A fault from one place of a file up to another. -/
def faultAt (file : Option Text) (problem : ScriptProblem) (first behind : Place) : Fault where
  cause := .script problem
  span := some ⟨first, behind⟩
  file := file

/-- The tokens of a text that begins at a place, behind those of `done`, which come last first. The
bound is that of `tokenize`; when it is used up before the text is, the lexer goes on for ever. -/
def scan (file : Option Text) : Nat → Text → Place → List Token → Except Fault (List Token)
  | _, [], _, done => .ok done.reverse
  | 0, _ :: _, place, _ => .error (faultAt file .stalled place place)
  | fuel + 1, u :: rest, place, done =>
    let t := u :: rest
    match step t with
    | .skip count => scan file fuel (t.drop count) (place.after (t.take count)) done
    | .token kind value count =>
      let behind := place.after (t.take count)
      scan file fuel (t.drop count) behind (⟨kind, value, ⟨place, behind⟩⟩ :: done)
    | .fail problem count => .error (faultAt file problem place (place.after (t.take count)))

end VisualNovel.Lexer

namespace VisualNovel

/-- The tokens of a script. The file is named in a fault only. -/
def tokenize (source : Text) (file : Option Text) : Except Fault (List Token) :=
  Lexer.scan file source.length source .start []

end VisualNovel
