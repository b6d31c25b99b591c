import VisualNovel.Json.Basic
import VisualNovel.Number.Numeral

/-!
Reading JSON text.

`Json.parse?` accepts exactly the texts of the JSON grammar. Of two fields with one name the later
value counts, in the place of the first, and the fields of an object are put into record order. Each
reading function takes a text and returns what it read with the rest of the text; nested values
consume at least one unit, so the length of the text bounds the depth of the recursion.
-/

namespace VisualNovel.Json

/-- What was read, and the rest of the text. -/
abbrev Reading (α : Type) := Option (α × Text)

/-- The four units that may stand between the parts of a value. -/
def isGap (u : UInt16) : Bool := u == 0x20 || u == 0x09 || u == 0x0A || u == 0x0D

/-- Drops the gap in front of a text. -/
def skipGap (t : Text) : Text := t.dropWhile isGap

/-! ## 1. Strings -/

/-- Where the reader of a string stands: in plain text, after a backslash, or among the digits of
a numbered escape, with those still to come and the value so far. -/
inductive StringPoint where
  | plain
  | escape
  | digits (left : Nat) (value : Nat)

/-- The unit that a letter after a backslash stands for. -/
def escapedUnit? (u : UInt16) : Option UInt16 :=
  if u = Text.unit '"' then some u
  else if u = Text.unit '\\' then some u
  else if u = Text.unit '/' then some u
  else if u = Text.unit 'b' then some 0x08
  else if u = Text.unit 'f' then some 0x0C
  else if u = Text.unit 'n' then some 0x0A
  else if u = Text.unit 'r' then some 0x0D
  else if u = Text.unit 't' then some 0x09
  else none

/-- The content of a string up to its closing quote; `done` holds what was read, last unit first. -/
def stringBody : StringPoint → Text → Text → Reading Text
  | _, _, [] => none
  | .plain, done, u :: rest =>
    if u = Text.unit '"' then some (done.reverse, rest)
    else if u = Text.unit '\\' then stringBody .escape done rest
    else if u < 0x20 then none
    else stringBody .plain (u :: done) rest
  | .escape, done, u :: rest =>
    if u = Text.unit 'u' then stringBody (.digits 4 0) done rest
    else
      match escapedUnit? u with
      | some v => stringBody .plain (v :: done) rest
      | none => none
  | .digits left value, done, u :: rest =>
    if Text.isHexDigit u then
      let next := value * 16 + Text.hexValue u
      if left ≤ 1 then stringBody .plain (next.toUInt16 :: done) rest
      else stringBody (.digits (left - 1) next) done rest
    else none

/-! ## 2. Numbers -/

/-- The whole part of a number: one digit, or several of which the first is not zero. -/
def wholePart? (t : Text) : Reading Text :=
  let digits := t.takeWhile Text.isDigit
  let rest := t.dropWhile Text.isDigit
  match digits with
  | [] => none
  | [_] => some (digits, rest)
  | d :: _ => if d = Text.unit '0' then none else some (digits, rest)

/-- An optional decimal point with at least one digit after it. -/
def fractionPart? : Text → Reading Text
  | [] => some ([], [])
  | u :: rest =>
    if u = Text.unit '.' then
      let digits := rest.takeWhile Text.isDigit
      if digits.isEmpty then none else some (digits, rest.dropWhile Text.isDigit)
    else some ([], u :: rest)

/-- An optional exponent with at least one digit. -/
def scalePart? : Text → Reading Int
  | [] => some (0, [])
  | u :: rest =>
    if u = Text.unit 'e' || u = Text.unit 'E' then
      let (negative, body) := Number.takeSign rest
      let digits := body.takeWhile Text.isDigit
      if digits.isEmpty then none
      else
        let size := Int.ofNat (Text.natOfDigits digits)
        some (if negative then -size else size, body.dropWhile Text.isDigit)
    else some (0, u :: rest)

/-- A number without its sign. -/
def unsignedNumber? (negative : Bool) (t : Text) : Option (Json × Text) := do
  let (whole, rest) ← wholePart? t
  let (places, rest) ← fractionPart? rest
  let (exponent, rest) ← scalePart? rest
  let digits := Text.natOfDigits (whole ++ places)
  return (.num (Number.ofDecimal negative digits (exponent - Int.ofNat places.length)), rest)

/-- A number with an optional minus. -/
def number? : Text → Reading Json
  | [] => none
  | u :: rest =>
    if u = Text.unit '-' then unsignedNumber? true rest else unsignedNumber? false (u :: rest)

/-! ## 3. Values -/

/-- A word that must stand at the front of the text. -/
def word? (word : Text) (value : Json) (t : Text) : Reading Json :=
  if t.startsWith word then some (value, t.drop word.length) else none

/-- The fields of an object as they were written, in the order in which they are kept. -/
def orderedFields (fields : List (Text × Json)) : List (Text × Json) :=
  recordOrder (Table.ofEntries fields).entries

mutual

/-- A value at the front of a text. -/
def value? : Nat → Text → Reading Json
  | 0, _ => none
  | _, [] => none
  | fuel + 1, u :: rest =>
    if u = Text.unit '"' then
      (stringBody .plain [] rest).map fun (t, rest) => (.str t, rest)
    else if u = Text.unit '[' then
      match skipGap rest with
      | [] => none
      | v :: after =>
        if v = Text.unit ']' then some (.arr [], after) else elements? fuel [] (v :: after)
    else if u = Text.unit '\x7b' then
      match skipGap rest with
      | [] => none
      | v :: after =>
        if v = Text.unit '\x7d' then some (.obj [], after) else members? fuel [] (v :: after)
    else if u = Text.unit 't' then word? "true" (.bool true) (u :: rest)
    else if u = Text.unit 'f' then word? "false" (.bool false) (u :: rest)
    else if u = Text.unit 'n' then word? "null" .null (u :: rest)
    else number? (u :: rest)

/-- The items of an array from the first one on; `done` holds the earlier ones, last first. -/
def elements? : Nat → List Json → Text → Reading Json
  | 0, _, _ => none
  | fuel + 1, done, t =>
    match value? fuel (skipGap t) with
    | none => none
    | some (item, rest) =>
      match skipGap rest with
      | [] => none
      | u :: after =>
        if u = Text.unit ',' then elements? fuel (item :: done) after
        else if u = Text.unit ']' then some (.arr (item :: done).reverse, after)
        else none

/-- The fields of an object from the first one on; `done` holds the earlier ones, last first. -/
def members? : Nat → List (Text × Json) → Text → Reading Json
  | 0, _, _ => none
  | fuel + 1, done, t =>
    match skipGap t with
    | [] => none
    | u :: rest =>
      if u = Text.unit '"' then
        match stringBody .plain [] rest with
        | none => none
        | some (name, rest) =>
          match skipGap rest with
          | [] => none
          | v :: rest =>
            if v = Text.unit ':' then
              match value? fuel (skipGap rest) with
              | none => none
              | some (value, rest) =>
                match skipGap rest with
                | [] => none
                | w :: after =>
                  let entries := (name, value) :: done
                  if w = Text.unit ',' then members? fuel entries after
                  else if w = Text.unit '\x7d' then
                    some (.obj (orderedFields entries.reverse), after)
                  else none
            else none
      else none

end

/-- The value that a whole text spells. -/
def parse? (t : Text) : Option Json :=
  match value? (2 * t.length + 2) (skipGap t) with
  | some (value, rest) => if (skipGap rest).isEmpty then some value else none
  | none => none

end VisualNovel.Json
