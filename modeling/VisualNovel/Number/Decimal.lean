import VisualNovel.Text.Basic
import VisualNovel.Number.Binary

/-!
Decimal text of numbers.

A number is written with the fewest digits that read back as the same number, and of those the
nearest to it. `shortest` finds these digits by exact integer arithmetic: the numbers that round to
`m · 2 ^ p` form an interval around it, and for one digit, two digits, … the two neighbours of the
number on that decimal grid are tested against the interval. `text` lays the digits out: positional
notation between `10 ^ -6` and `10 ^ 21`, an exponent with its sign outside.

`fixed` writes a given number of places, rounded from the exact binary value.
-/

namespace VisualNovel.Number

/-! ## 1. The fewest digits -/

/-- A positive quotient of natural numbers. -/
structure Quotient where
  num : Nat
  den : Nat
  deriving Repr, DecidableEq

/-- The quotient `m · 2 ^ p`. -/
def Quotient.ofBinary (m : Nat) (p : Int) : Quotient :=
  if p ≥ 0 then ⟨m * Nat.pow 2 p.toNat, 1⟩ else ⟨m, Nat.pow 2 (-p).toNat⟩

/-- The quotient `d · 10 ^ k`. -/
def Quotient.ofDecimal (d : Nat) (k : Int) : Quotient :=
  if k ≥ 0 then ⟨d * Nat.pow 10 k.toNat, 1⟩ else ⟨d, Nat.pow 10 (-k).toNat⟩

/-- Order of quotients with positive denominators. -/
def Quotient.less (a b : Quotient) : Bool := a.num * b.den < b.num * a.den

/-- Decimal digits and the place of the decimal point: the number is `0.digits · 10 ^ point`. -/
structure Digits where
  digits : List Nat
  point : Int
  deriving Repr, DecidableEq

/-- Moves an estimate of the decimal point until `10 ^ (point - 1) ≤ v < 10 ^ point`. -/
def settlePoint (v : Quotient) : Nat → Int → Int
  | 0, point => point
  | fuel + 1, point =>
    if !v.less (.ofDecimal 1 point) then settlePoint v fuel (point + 1)
    else if v.less (.ofDecimal 1 (point - 1)) then settlePoint v fuel (point - 1)
    else point

/-- The place of the decimal point of a positive quotient. -/
def decimalPoint (v : Quotient) : Int :=
  let estimate : Int := (Int.ofNat v.num.log2 - Int.ofNat v.den.log2) * 30103 / 100000
  settlePoint v 8 estimate

/-- The numbers that round to `m · 2 ^ p`: the middles between it and its two neighbours, and
whether these ends belong to it. -/
structure RoundingInterval where
  low : Quotient
  high : Quotient
  closed : Bool

/-- The rounding interval of a positive finite number. The neighbour below a power of two is half
as far away as the one above, except at the least power. -/
def RoundingInterval.of (m : Nat) (p : Int) : RoundingInterval where
  low :=
    if m == Nat.pow 2 52 && p > -1074 then .ofBinary (4 * m - 1) (p - 2)
    else .ofBinary (2 * m - 1) (p - 1)
  high := .ofBinary (2 * m + 1) (p - 1)
  closed := m % 2 == 0

/-- Whether a quotient rounds to the number of the interval. -/
def RoundingInterval.holds (i : RoundingInterval) (q : Quotient) : Bool :=
  if i.closed then !q.less i.low && !i.high.less q else i.low.less q && q.less i.high

/-- The grid point with `count` digits nearest to `v` among those that round to the number. -/
def onGrid (v : Quotient) (i : RoundingInterval) (point : Int) (count : Nat) : Option Nat :=
  let step : Int := point - Int.ofNat count
  let scaled : Quotient :=
    if step ≥ 0 then ⟨v.num, v.den * Nat.pow 10 step.toNat⟩
    else ⟨v.num * Nat.pow 10 (-step).toNat, v.den⟩
  let below := scaled.num / scaled.den
  let rest := scaled.num % scaled.den
  let belowHolds := below != 0 && i.holds (.ofDecimal below step)
  let aboveHolds := i.holds (.ofDecimal (below + 1) step)
  match belowHolds, aboveHolds with
  | false, false => none
  | true, false => some below
  | false, true => some (below + 1)
  | true, true =>
    if 2 * rest < scaled.den then some below
    else if scaled.den < 2 * rest then some (below + 1)
    else if below % 2 == 0 then some below else some (below + 1)

/-- The digits of a natural number, most significant first. -/
def digitList (n : Nat) : List Nat := (Nat.toDigits 10 n).map fun c => c.toNat - '0'.toNat

/-- Drops zeros at the end; they do not change the value of a fraction. -/
def dropTrailingZeros (ds : List Nat) : List Nat := (ds.reverse.dropWhile (· == 0)).reverse

/-- Tries the grids with `count`, `count + 1`, … digits. Seventeen digits always suffice. -/
def searchGrids (v : Quotient) (i : RoundingInterval) (point : Int) : Nat → Nat → Digits
  | 0, count =>
    let step : Int := point - Int.ofNat count
    let scaled : Quotient :=
      if step ≥ 0 then ⟨v.num, v.den * Nat.pow 10 step.toNat⟩
      else ⟨v.num * Nat.pow 10 (-step).toNat, v.den⟩
    ⟨digitList (Nat.max 1 (scaled.num / scaled.den)), point⟩
  | fuel + 1, count =>
    match onGrid v i point count with
    | some d =>
      let ds := digitList d
      ⟨dropTrailingZeros ds, point + (Int.ofNat ds.length - Int.ofNat count)⟩
    | none => searchGrids v i point fuel (count + 1)

/-- The fewest digits that read back as the positive number `m · 2 ^ p`. -/
def shortest (m : Nat) (p : Int) : Digits :=
  let v := Quotient.ofBinary m p
  searchGrids v (.of m p) (decimalPoint v) 17 1

/-! ## 2. Layout -/

/-- The digits as text. -/
def digitText (ds : List Nat) : Text := ds.map fun d => Text.unit (Nat.digitChar d)

/-- So many zeros. -/
def zeros (n : Nat) : Text := List.replicate n (Text.unit '0')

/-- The greatest place of the decimal point that is written positionally. -/
def greatestPoint : Int := 21

/-- The least place of the decimal point that is written positionally. -/
def leastPoint : Int := -5

/-- Digits in positional notation where the decimal point is near, with an exponent elsewhere. -/
def layout (d : Digits) : Text :=
  let count := Int.ofNat d.digits.length
  let ds := digitText d.digits
  if 0 < d.point && d.point ≤ greatestPoint then
    if count ≤ d.point then ds ++ zeros (d.point - count).toNat
    else ds.take d.point.toNat ++ Text.ofString "." ++ ds.drop d.point.toNat
  else if leastPoint ≤ d.point && d.point ≤ 0 then
    Text.ofString "0." ++ zeros (-d.point).toNat ++ ds
  else
    let exponent := d.point - 1
    let mantissa := if count = 1 then ds else ds.take 1 ++ Text.ofString "." ++ ds.drop 1
    let sign := if exponent < 0 then Text.ofString "e-" else Text.ofString "e+"
    mantissa ++ sign ++ Text.ofNat exponent.natAbs

/-- The text of a number: the fewest digits that read back. Both zeros are `0`. -/
def text (x : Float) : Text :=
  match parts x with
  | .nan => "NaN"
  | .infinite false => "Infinity"
  | .infinite true => "-Infinity"
  | .finite negative m p =>
    if m == 0 then "0"
    else
      let body := layout (shortest m p)
      if negative then Text.unit '-' :: body else body

/-! ## 3. A fixed number of places -/

/-- A natural number of units of the last place, with the decimal point in front of the places. -/
def placePoint (places n : Nat) : Text :=
  let ds := Text.ofNat n
  let padded := zeros (places + 1 - ds.length) ++ ds
  let whole := padded.length - places
  if places = 0 then padded
  else padded.take whole ++ Text.ofString "." ++ padded.drop whole

/-- The number with so many places, rounded from its exact value with a half going up in size.
Numbers from `10 ^ 21` on are written as by `text`. -/
def fixed (places : Nat) (x : Float) : Text :=
  match parts x with
  | .finite negative m p =>
    let v := Quotient.ofBinary m p
    if !v.less (.ofDecimal 1 greatestPoint) then text x
    else
      let scaled := v.num * Nat.pow 10 places
      let body := placePoint places ((2 * scaled + v.den) / (2 * v.den))
      if negative && m != 0 then Text.unit '-' :: body else body
  | _ => text x

end VisualNovel.Number
