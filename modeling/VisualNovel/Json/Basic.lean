import VisualNovel.Number.Decimal
import VisualNovel.Table

/-!
JSON values and their text.

Fields of an object keep their order. `compact` writes a value on one line and `indented` with two
blanks for each level; both write a number with the fewest digits that read back, a number that is
not finite as `null`, and half of a surrogate pair without its partner as an escape.
-/

namespace VisualNovel

/-- A JSON value. -/
inductive Json where
  | null
  | bool (value : Bool)
  | num (value : Float)
  | str (value : Text)
  | arr (items : List Json)
  | obj (fields : List (Text × Json))
  deriving Repr, Inhabited

namespace Json

mutual

/-- Whether two values are the same. -/
def decEq (a b : Json) : Decidable (a = b) :=
  match a, b with
  | .null, .null => isTrue rfl
  | .bool x, .bool y => decidable_of_iff (x = y) (by simp)
  | .num x, .num y => decidable_of_iff (x = y) (by simp)
  | .str x, .str y => decidable_of_iff (x = y) (by simp)
  | .arr xs, .arr ys =>
    match decEqItems xs ys with
    | isTrue h => isTrue (congrArg Json.arr h)
    | isFalse h => isFalse (fun e => h (Json.arr.inj e))
  | .obj xs, .obj ys =>
    match decEqFields xs ys with
    | isTrue h => isTrue (congrArg Json.obj h)
    | isFalse h => isFalse (fun e => h (Json.obj.inj e))
  | .null, .bool _ | .null, .num _ | .null, .str _ | .null, .arr _ | .null, .obj _
  | .bool _, .null | .bool _, .num _ | .bool _, .str _ | .bool _, .arr _ | .bool _, .obj _
  | .num _, .null | .num _, .bool _ | .num _, .str _ | .num _, .arr _ | .num _, .obj _
  | .str _, .null | .str _, .bool _ | .str _, .num _ | .str _, .arr _ | .str _, .obj _
  | .arr _, .null | .arr _, .bool _ | .arr _, .num _ | .arr _, .str _ | .arr _, .obj _
  | .obj _, .null | .obj _, .bool _ | .obj _, .num _ | .obj _, .str _ | .obj _, .arr _ =>
    isFalse (by simp)

/-- Whether two lists of items are the same. -/
def decEqItems (xs ys : List Json) : Decidable (xs = ys) :=
  match xs, ys with
  | [], [] => isTrue rfl
  | [], _ :: _ | _ :: _, [] => isFalse (by simp)
  | x :: xs, y :: ys =>
    match decEq x y, decEqItems xs ys with
    | isTrue h, isTrue t => isTrue (by rw [h, t])
    | isFalse h, _ => isFalse (fun e => h (List.cons.inj e).1)
    | _, isFalse t => isFalse (fun e => t (List.cons.inj e).2)

/-- Whether two lists of fields are the same. -/
def decEqFields (xs ys : List (Text × Json)) : Decidable (xs = ys) :=
  match xs, ys with
  | [], [] => isTrue rfl
  | [], _ :: _ | _ :: _, [] => isFalse (by simp)
  | (k, x) :: xs, (l, y) :: ys =>
    match decEq x y, decEqFields xs ys with
    | isTrue h, isTrue t => decidable_of_iff (k = l) (by simp [h, t])
    | isFalse h, _ => isFalse (fun e => h (Prod.mk.inj (List.cons.inj e).1).2)
    | _, isFalse t => isFalse (fun e => t (List.cons.inj e).2)

end

instance : DecidableEq Json := decEq

/-! ## 1. Parts of a value -/

/-- The field of an object under a name. -/
def field? : Json → Text → Option Json
  | .obj fields, name => fields.lookup name
  | _, _ => none

/-- The fields of an object. -/
def fields? : Json → Option (List (Text × Json))
  | .obj fields => some fields
  | _ => none

/-- The items of an array. -/
def items? : Json → Option (List Json)
  | .arr items => some items
  | _ => none

/-- The text of a string. -/
def text? : Json → Option Text
  | .str t => some t
  | _ => none

/-- The number of a number. -/
def num? : Json → Option Float
  | .num x => some x
  | _ => none

/-- The number of a finite number. -/
def finite? : Json → Option Float
  | .num x => if Number.isFinite x then some x else none
  | _ => none

/-- The truth value of a boolean. -/
def bool? : Json → Option Bool
  | .bool b => some b
  | _ => none

/-- A natural number. -/
def ofNat (n : Nat) : Json := .num (Float.ofNat n)

/-- The value, or `null` without one. -/
def orNull : Option Json → Json
  | some j => j
  | none => .null

/-- A text, or `null` without one. -/
def ofText? (t : Option Text) : Json := orNull (t.map .str)

/-- A number, or `null` without one. -/
def ofNumber? (x : Option Float) : Json := orNull (x.map .num)

/-- An object with the given fields. -/
def record (fields : List (String × Json)) : Json :=
  .obj (fields.map fun f => (Text.ofString f.1, f.2))

/-- A field that an object must have, read in some way. -/
def need {α : Type} (j : Json) (name : String) (read : Json → Option α) : Option α :=
  (j.field? name).bind read

/-- A field that an object must have and that may be `null`. -/
def needOrNull {α : Type} (j : Json) (name : String) (read : Json → Option α) : Option (Option α) :=
  match j.field? name with
  | none => none
  | some .null => some none
  | some value => (read value).map some

/-- A field that an object may lack and that may be `null`. -/
def allow {α : Type} (j : Json) (name : String) (read : Json → Option α) : Option (Option α) :=
  match j.field? name with
  | none | some .null => some none
  | some value => (read value).map some

/-- All items of an array, each read in the same way. -/
def list? {α : Type} (read : Json → Option α) (j : Json) : Option (List α) :=
  j.items?.bind fun items => items.mapM read

/-- All fields of an object as a table, each read in the same way with its name. -/
def table? {α : Type} (read : Text → Json → Option α) (j : Json) : Option (Table α) :=
  j.fields?.bind fun fields => (fields.mapM fun f => (read f.1 f.2).map (f.1, ·)).map Table.mk

/-! ## 2. Text of strings -/

/-- The lower-case hexadecimal digits of a unit, four of them. -/
def hexDigits (u : UInt16) : Text :=
  let digit := fun (n : Nat) => Text.unit (Nat.digitChar (u.toNat / n % 16))
  [digit 4096, digit 256, digit 16, digit 1]

/-- The unit written as a numbered escape. -/
def numberedEscape (u : UInt16) : Text := Text.ofString "\\u" ++ hexDigits u

/-- One unit that stands for itself, or its escape. -/
def escapeUnit (u : UInt16) : Text :=
  if u = Text.unit '"' then "\\\""
  else if u = Text.unit '\\' then "\\\\"
  else if u = 0x08 then "\\b"
  else if u = 0x09 then "\\t"
  else if u = 0x0A then "\\n"
  else if u = 0x0C then "\\f"
  else if u = 0x0D then "\\r"
  else if u < 0x20 then numberedEscape u
  else [u]

/-- The escaped form of a text; a surrogate without its partner is written as an escape. -/
def escape : Text → Text
  | [] => []
  | [u] => if Text.isHighHalf u || Text.isLowHalf u then numberedEscape u else escapeUnit u
  | u :: v :: rest =>
    if Text.isHighHalf u && Text.isLowHalf v then u :: v :: escape rest
    else
      (if Text.isHighHalf u || Text.isLowHalf u then numberedEscape u else escapeUnit u) ++
        escape (v :: rest)

/-- A quoted string. -/
def quote (t : Text) : Text := Text.unit '"' :: escape t ++ [Text.unit '"']

/-- A number, or `null` for one that is not finite. -/
def numberText (x : Float) : Text := if Number.isFinite x then Number.text x else "null"

/-! ## 3. Text of values -/

mutual

/-- A value on one line, without blanks. -/
def compact : Json → Text
  | .null => "null"
  | .bool true => "true"
  | .bool false => "false"
  | .num x => numberText x
  | .str t => quote t
  | .arr items => Text.unit '[' :: Text.join "," (compactItems items) ++ [Text.unit ']']
  | .obj fields => Text.unit '\x7b' :: Text.join "," (compactFields fields) ++ [Text.unit '\x7d']

/-- The items of an array, each on its own. -/
def compactItems : List Json → List Text
  | [] => []
  | item :: rest => compact item :: compactItems rest

/-- The fields of an object, each with its name. -/
def compactFields : List (Text × Json) → List Text
  | [] => []
  | (name, value) :: rest => (quote name ++ (Text.unit ':' :: compact value)) :: compactFields rest

end

/-- A new line at a level of nesting. -/
def lineBreak (level : Nat) : Text := Text.unit '\n' :: List.replicate (2 * level) (Text.unit ' ')

mutual

/-- A value over several lines, two blanks for each level of nesting. -/
def indentedAt (level : Nat) : Json → Text
  | .null => "null"
  | .bool true => "true"
  | .bool false => "false"
  | .num x => numberText x
  | .str t => quote t
  | .arr [] => "[]"
  | .arr items =>
    Text.unit '[' :: lineBreak (level + 1) ++
      Text.join (Text.unit ',' :: lineBreak (level + 1)) (indentedItems (level + 1) items) ++
      lineBreak level ++ [Text.unit ']']
  | .obj [] => "\x7b\x7d"
  | .obj fields =>
    Text.unit '\x7b' :: lineBreak (level + 1) ++
      Text.join (Text.unit ',' :: lineBreak (level + 1)) (indentedFields (level + 1) fields) ++
      lineBreak level ++ [Text.unit '\x7d']

/-- The items of an array at a level of nesting. -/
def indentedItems (level : Nat) : List Json → List Text
  | [] => []
  | item :: rest => indentedAt level item :: indentedItems level rest

/-- The fields of an object at a level of nesting. -/
def indentedFields (level : Nat) : List (Text × Json) → List Text
  | [] => []
  | (name, value) :: rest =>
    (quote name ++ Text.ofString ": " ++ indentedAt level value) :: indentedFields level rest

end

/-- A value over several lines. -/
def indented (value : Json) : Text := indentedAt 0 value

end Json
end VisualNovel
