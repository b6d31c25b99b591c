/-!
Numbers as sign, significand and power of two.

A finite number is `± significand · 2 ^ power`. `parts` reads that form off the bits of a number,
and integer arithmetic on it gives the operations that the arithmetic of the processor does not
define in the logic: whole numbers below and nearest, remainders, and the test for being whole.
All of them are exact.
-/

namespace VisualNovel.Number

/-- A number taken apart. -/
inductive Parts where
  /-- Not a number. -/
  | nan
  /-- An infinity, negative or not. -/
  | infinite (negative : Bool)
  /-- A finite number: its sign, and its size `significand · 2 ^ power`. -/
  | finite (negative : Bool) (significand : Nat) (power : Int)
  deriving DecidableEq, Repr, Inhabited

/-- Sign, significand and power of two of a number, from its bits. -/
def parts (x : Float) : Parts :=
  let bits : Nat := x.toBits.toNat
  let negative := bits / Nat.pow 2 63 == 1
  let exponent : Nat := bits / Nat.pow 2 52 % Nat.pow 2 11
  let fraction : Nat := bits % Nat.pow 2 52
  if exponent == 2047 then
    if fraction == 0 then .infinite negative else .nan
  else if exponent == 0 then .finite negative fraction (-1074)
  else .finite negative (fraction + Nat.pow 2 52) (Int.ofNat exponent - 1075)

/-- Neither infinite nor the error value. -/
def isFinite (x : Float) : Bool :=
  match parts x with
  | .finite .. => true
  | _ => false

/-- The number with the given sign and whole size. -/
def ofSigned (negative : Bool) (size : Nat) : Float :=
  if negative then -(Float.ofNat size) else Float.ofNat size

/-- A finite number without a fraction. -/
def isWhole (x : Float) : Bool :=
  match parts x with
  | .finite _ m p => p ≥ 0 || m % Nat.pow 2 (-p).toNat == 0
  | _ => false

/-- The natural number that a number is, if it is one. Negative zero is zero. -/
def toNat? (x : Float) : Option Nat :=
  match parts x with
  | .finite negative m p =>
    let size? :=
      if p ≥ 0 then some (m * Nat.pow 2 p.toNat)
      else if m % Nat.pow 2 (-p).toNat == 0 then some (m / Nat.pow 2 (-p).toNat)
      else none
    match size? with
    | some size => if negative && size != 0 then none else some size
    | none => none
  | _ => none

/-- The greatest whole number that is not above `x`; a number without a fraction is kept. -/
def floor (x : Float) : Float :=
  match parts x with
  | .finite negative m p =>
    if p ≥ 0 then x
    else
      let unit := Nat.pow 2 (-p).toNat
      if m % unit == 0 then x
      else ofSigned negative (if negative then m / unit + 1 else m / unit)
  | _ => x

/-- The least whole number that is not below `x`. -/
def ceil (x : Float) : Float := -(floor (-x))

/-- The whole number nearest to `x`; of two equally near ones the greater. -/
def round (x : Float) : Float :=
  match parts x with
  | .finite negative m p =>
    if p ≥ 0 then x
    else
      let unit := Nat.pow 2 (-p).toNat
      if m % unit == 0 then x
      else if negative then ofSigned true ((2 * m + unit - 1) / (2 * unit))
      else ofSigned false ((2 * m + unit) / (2 * unit))
  | _ => x

/-- The number of whole steps `1, 2, …` that are not above `x`. -/
def countUpTo (x : Float) : Nat :=
  match parts x with
  | .finite false m p => if p ≥ 0 then m * Nat.pow 2 p.toNat else m / Nat.pow 2 (-p).toNat
  | _ => 0

/-- The power `2 ^ p` as a number, for the powers that finite numbers have. -/
def powerOfTwo (p : Int) : Float :=
  if p ≥ -1022 then Float.ofBits ((p + 1023).toNat * Nat.pow 2 52).toUInt64
  else Float.ofBits (Nat.pow 2 (p + 1074).toNat).toUInt64

/-- The remainder of division with the quotient cut towards zero; it has the sign of `x`. -/
def remainder (x y : Float) : Float :=
  match parts x, parts y with
  | .finite negative m p, .finite _ n q =>
    if n == 0 then 0.0 / 0.0
    else
      let low := min p q
      let rest := (m * Nat.pow 2 (p - low).toNat) % (n * Nat.pow 2 (q - low).toNat)
      let size := Float.ofNat rest * powerOfTwo low
      if negative then -size else size
  | .finite .., .infinite _ => x
  | _, _ => 0.0 / 0.0

/-- The greater of two numbers; the error value wins, and of two zeros the first one. -/
def maximum (x y : Float) : Float :=
  if x.isNaN then x else if y.isNaN then y else if x < y then y else x

/-- The smaller of two numbers; the error value wins, and of two zeros the first one. -/
def minimum (x y : Float) : Float :=
  if x.isNaN then x else if y.isNaN then y else if y < x then y else x

/-- The number moved into the range from `low` to `high`; an empty range gives `high`. -/
def clamp (x low high : Float) : Float := minimum high (maximum low x)

/-- The length of the vector `(x, y)`: the parts are scaled by the greater one, and the sum of
their squares is compensated for its rounding error. -/
def length (x y : Float) : Float :=
  let a := x.abs
  let b := y.abs
  if !isFinite a || !isFinite b then
    if parts a == .infinite false || parts b == .infinite false then 1.0 / 0.0 else 0.0 / 0.0
  else
    let most := maximum a b
    if most == 0.0 then 0.0
    else
      let add := fun ((sum, lost) : Float × Float) (part : Float) =>
        let ratio := part / most
        let term := ratio * ratio - lost
        let next := sum + term
        (next, (next - sum) - term)
      ([a, b].foldl add (0.0, 0.0)).1.sqrt * most

end VisualNovel.Number
