import VisualNovel.Number.Decimal
import VisualNovel.Number.Numeral
import VisualNovel.Table

/-!
Variables of a story.

A variable holds a number, a text or a truth value. A value has a numeric view when it is a finite
number, a truth value, or a text that spells a numeral. Comparison uses the numeric views when both
sides have one; otherwise values can only be equal or not. `interpolate` puts the values of
variables into a text, in one pass from left to right.
-/

namespace VisualNovel

/-- The value of a variable. -/
inductive Value where
  | num (value : Float)
  | str (value : Text)
  | bool (value : Bool)
  deriving DecidableEq, Repr, Inhabited

/-- The variables of a story, in the order in which they were first set. -/
abbrev Variables := Table Value

/-- A value that a script writes down, or takes from a variable. -/
inductive Operand where
  | literal (value : Value)
  | ref (name : Text)
  deriving DecidableEq, Repr, Inhabited

/-- The operators of a comparison. -/
inductive CompareOp where
  | eq | ne | gt | ge | lt | le
  deriving DecidableEq, Repr, Inhabited

namespace CompareOp

/-- All operators, in the order in which messages list them. -/
def all : List CompareOp := [.eq, .ne, .gt, .ge, .lt, .le]

/-- The spelling of an operator. -/
def symbol : CompareOp → Text
  | .eq => "=="
  | .ne => "!="
  | .gt => ">"
  | .ge => ">="
  | .lt => "<"
  | .le => "<="

/-- The operator with a spelling. -/
def ofSymbol? (t : Text) : Option CompareOp := all.find? fun op => op.symbol = t

/-- The operator that holds of two numbers where this one does not. -/
def negate : CompareOp → CompareOp
  | .eq => .ne
  | .ne => .eq
  | .gt => .le
  | .ge => .lt
  | .lt => .ge
  | .le => .gt

/-- Comparison of numbers. -/
def holdsOf (op : CompareOp) (left right : Float) : Bool :=
  match op with
  | .eq => left == right
  | .ne => !(left == right)
  | .gt => decide (right < left)
  | .ge => decide (right ≤ left)
  | .lt => decide (left < right)
  | .le => decide (left ≤ right)

end CompareOp

namespace Value

/-- The text of a value. -/
def text : Value → Text
  | .num x => Number.text x
  | .str t => t
  | .bool true => "true"
  | .bool false => "false"

/-- The numeric view of a value. -/
def number? : Value → Option Float
  | .num x => if Number.isFinite x then some x else none
  | .bool true => some 1.0
  | .bool false => some 0.0
  | .str t => Number.ofNumeral? t.trim

/-- Equality of values of one type. Both zeros are equal, and the error value equals nothing. -/
def same : Value → Value → Bool
  | .num a, .num b => a == b
  | .str a, .str b => a == b
  | .bool a, .bool b => a == b
  | _, _ => false

/-- Equality of values that may be missing. -/
def sameOption : Option Value → Option Value → Bool
  | none, none => true
  | some a, some b => same a b
  | _, _ => false

end Value

/-- Comparison of values that may be missing: by their numeric views where both have one, and by
equality otherwise. An order between values without a numeric view never holds. -/
def CompareOp.holds (op : CompareOp) (left right : Option Value) : Bool :=
  match left.bind Value.number?, right.bind Value.number? with
  | some a, some b => op.holdsOf a b
  | _, _ =>
    match op with
    | .eq => Value.sameOption left right
    | .ne => !Value.sameOption left right
    | _ => false

/-- The value of an operand. -/
def Operand.value? (operand : Operand) (vars : Variables) : Option Value :=
  match operand with
  | .literal v => some v
  | .ref name => vars.get? name

/-- What adding an amount makes of a variable: a finite number grows, anything else is replaced. -/
def Value.add (current : Option Value) (amount : Float) : Float :=
  match current with
  | some (.num x) => if Number.isFinite x then x + amount else amount
  | _ => amount

/-! ## Interpolation -/

namespace Placeholder

/-- The first unit of a name in a text. -/
def isNameStart (u : UInt16) : Bool := Text.isLetter u || u = Text.unit '_'

/-- A further unit of a bare name. -/
def isNamePart (u : UInt16) : Bool := isNameStart u || Text.isDigit u

/-- A further unit of a name in braces. -/
def isBracedPart (u : UInt16) : Bool := isNamePart u || u = Text.unit '.'

/-- The name at the front of a text, with its further units in a class. -/
def leadingName (part : UInt16 → Bool) : Text → Text
  | [] => []
  | u :: rest => if isNameStart u then u :: rest.takeWhile part else []

/-- The placeholder behind a dollar sign: its name, and the number of units it takes. -/
def behindDollar? (t : Text) : Option (Text × Nat) :=
  match t with
  | [] => none
  | u :: rest =>
    if u = Text.unit '\x7b' then
      let name := leadingName isBracedPart rest
      if !name.isEmpty && (rest.drop name.length).head? = some (Text.unit '\x7d') then
        some (name, name.length + 2)
      else none
    else
      let name := leadingName isNamePart t
      if name.isEmpty then none else some (name, name.length)

/-- Replaces the placeholders of a text of which the first `skip` units are already done. -/
def fill (vars : Variables) : Nat → Text → Text
  | _, [] => []
  | skip + 1, _ :: rest => fill vars skip rest
  | 0, u :: rest =>
    if u = Text.unit '$' then
      match behindDollar? rest with
      | some (name, count) =>
        match vars.get? name with
        | some value => value.text ++ fill vars count rest
        | none => u :: rest.take count ++ fill vars count rest
      | none => u :: fill vars 0 rest
    else u :: fill vars 0 rest

end Placeholder

/-- The text with the values of variables in the place of `$name` and of names in braces behind a
dollar sign. A name without a value stays as it is written. -/
def interpolate (vars : Variables) (t : Text) : Text := Placeholder.fill vars 0 t

end VisualNovel
