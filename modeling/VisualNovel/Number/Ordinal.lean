import VisualNovel.Number.Decimal

/-!
Ordinals: numbers that count something.

The next command, an option of a choice, an entry of a menu and the number of a block are counted
from zero. Scripts, save files and tools name them by numbers, and any number can arrive: a negative
one, one with a fraction, one that is too great to be counted exactly. `Ordinal` keeps the two
apart, so that moving a cursor is arithmetic on natural numbers wherever it can be.
-/

namespace VisualNovel

/-- A number that counts something. -/
inductive Ordinal where
  /-- The one with this number, counted from zero. -/
  | nth (number : Nat)
  /-- A number that counts nothing. -/
  | stray (value : Float)
  deriving DecidableEq, Repr, Inhabited

namespace Ordinal

/-! ## 1. Numbers -/

/-- Numbers from here on are strays, far below those that are not exact. -/
def bound : Nat := Nat.pow 2 52

/-- The ordinal of a number. -/
def ofNumber (x : Float) : Ordinal :=
  match Number.toNat? x with
  | some n => if n < bound then .nth n else .stray x
  | none => .stray x

/-- The ordinal of an integer. -/
def ofInt (i : Int) : Ordinal :=
  if 0 ≤ i && i < bound then .nth i.toNat else .stray (Float.ofInt i)

/-- The number of an ordinal. -/
def number : Ordinal → Float
  | .nth n => Float.ofNat n
  | .stray x => x

/-- The text of the number of an ordinal. -/
def text : Ordinal → Text
  | .nth n => Text.ofNat n
  | .stray x => Number.text x

/-! ## 2. Places in a list -/

/-- The entry that is meant, if there is one. -/
def get? {α : Type} (p : Ordinal) (xs : List α) : Option α :=
  match p with
  | .nth n => xs[n]?
  | .stray _ => none

/-- The entries from the one that is meant on; none for a stray. -/
def suffix {α : Type} (p : Ordinal) (xs : List α) : List α :=
  match p with
  | .nth n => xs.drop n
  | .stray _ => []

/-- Whether the number is at least this count, so that it is behind so many entries. -/
def reaches (p : Ordinal) (count : Nat) : Bool :=
  match p with
  | .nth n => count ≤ n
  | .stray x => Float.ofNat count ≤ x

/-- Whether the number is greater than this count. -/
def exceeds (p : Ordinal) (count : Nat) : Bool :=
  match p with
  | .nth n => count < n
  | .stray x => Float.ofNat count < x

/-! ## 3. Steps -/

/-- The number after it. -/
def next : Ordinal → Ordinal
  | .nth n => .nth (n + 1)
  | .stray x => ofNumber (x + 1.0)

/-- The number before it. -/
def prior : Ordinal → Ordinal
  | .nth 0 => .stray (-1.0)
  | .nth (n + 1) => .nth n
  | .stray x => ofNumber (x - 1.0)

/-- So many numbers further. -/
def advance (p : Ordinal) : Nat → Ordinal
  | 0 => p
  | k + 1 => p.next.advance k

/-- Adds terms one after another and takes the remainder by the number of entries, cut towards zero.
Without entries there is nothing to turn to. -/
def turn (p : Ordinal) (terms : List Int) (count : Nat) : Ordinal :=
  match p with
  | .nth n =>
    if count = 0 then .stray (0.0 / 0.0)
    else ofInt ((terms.foldl (· + ·) (Int.ofNat n)).tmod (Int.ofNat count))
  | .stray x =>
    let sum := terms.foldl (fun s term => s + Float.ofInt term) x
    ofNumber (Number.remainder sum (Float.ofNat count))

/-- Adds any number and once around, and takes the remainder by the number of entries. -/
def turnBy (p : Ordinal) (delta : Float) (count : Nat) : Ordinal :=
  ofNumber (Number.remainder (p.number + delta + Float.ofNat count) (Float.ofNat count))

/-- The ordinal moved into the range of the entries. -/
def clampTo (p : Ordinal) (count : Nat) : Ordinal :=
  match p with
  | .nth n => if count = 0 then .stray (-1.0) else .nth (min n (count - 1))
  | .stray x => ofNumber (Number.clamp x 0.0 (Float.ofInt (Int.ofNat count - 1)))

end Ordinal
end VisualNovel
