import VisualNovel.Text.Blank
import VisualNovel.Number.Binary

/-!
Reading numerals.

A numeral is an optional sign, digits with an optional decimal point, and an optional exponent. Its
value is the number nearest to the decimal it spells. `Number.ofNumeral?` accepts exactly the
numerals; `leadingInteger?` reads the whole number in front of any text.
-/

namespace VisualNovel.Number

/-- The number nearest to `± digits · 10 ^ exponent`. Exponents far outside the range of finite
numbers are settled without computing the power. -/
def ofDecimal (negative : Bool) (digits : Nat) (exponent : Int) : Float :=
  let size :=
    if digits = 0 then 0.0
    else
      let point : Int := exponent + Int.ofNat (Nat.toDigits 10 digits).length
      if point > 400 then 1.0 / 0.0
      else if point < -400 then 0.0
      else if exponent < 0 then Float.ofScientific digits true exponent.natAbs
      else Float.ofScientific digits false exponent.natAbs
  if negative then -size else size

/-- A leading sign: whether it is a minus, and the rest. -/
def takeSign : Text → Bool × Text
  | [] => (false, [])
  | u :: rest =>
    if u = Text.unit '-' then (true, rest)
    else if u = Text.unit '+' then (false, rest)
    else (false, u :: rest)

/-- An optional exponent that must end the text: its value, or nothing for anything else. -/
def exponentPart? : Text → Option Int
  | [] => some 0
  | u :: rest =>
    if u = Text.unit 'e' || u = Text.unit 'E' then
      let (negative, digits) := takeSign rest
      if digits.isEmpty || !digits.all Text.isDigit then none
      else
        let size := Int.ofNat (Text.natOfDigits digits)
        some (if negative then -size else size)
    else none

/-- The digits in front of the decimal point, the digits after it, and the exponent. -/
def numeralParts? (t : Text) : Option (Text × Text × Int) :=
  let whole := t.takeWhile Text.isDigit
  match t.dropWhile Text.isDigit with
  | [] => if whole.isEmpty then none else some (whole, [], 0)
  | u :: rest =>
    if u = Text.unit '.' then
      let places := rest.takeWhile Text.isDigit
      if whole.isEmpty && places.isEmpty then none
      else (exponentPart? (rest.dropWhile Text.isDigit)).map (whole, places, ·)
    else if whole.isEmpty then none
    else (exponentPart? (u :: rest)).map (whole, [], ·)

/-- The value of a numeral; nothing for a text that is not one. -/
def ofNumeral? (t : Text) : Option Float :=
  let (negative, body) := takeSign t
  (numeralParts? body).map fun (whole, places, exponent) =>
    ofDecimal negative (Text.natOfDigits (whole ++ places)) (exponent - Int.ofNat places.length)

/-- The whole number at the front of a text, after blanks and a sign; nothing without a digit. -/
def leadingInteger? (t : Text) : Option Float :=
  let (negative, body) := takeSign (Text.trimStart t)
  let digits := body.takeWhile Text.isDigit
  if digits.isEmpty then none else some (ofDecimal negative (Text.natOfDigits digits) 0)

end VisualNovel.Number
