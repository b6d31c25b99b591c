import VisualNovel.Number.Binary

/-!
Clocks.

A game has a clock, and many things on the stage remember when they began or when they end. All of
them use the clock only through the operations below: the time after a while, the time between two
moments, and the order of moments. Moments and durations are of one type, counted in milliseconds.
The clock that programs run on is `Float`.
-/

namespace VisualNovel

/-- What a game needs of its clock. -/
class Clock (τ : Type) where
  /-- The moment at which a game begins, and the duration of nothing. -/
  zero : τ
  /-- The moment a while after another. -/
  add : τ → τ → τ
  /-- The time from the second moment to the first, or the moment a while before another. -/
  sub : τ → τ → τ
  /-- The later of two moments. -/
  max : τ → τ → τ
  /-- Whether a moment is before another. -/
  lt : τ → τ → Bool
  /-- Whether a moment is not after another. -/
  le : τ → τ → Bool
  /-- A number of milliseconds as a duration. -/
  ofMillis : Float → τ
  /-- The milliseconds of a duration. -/
  toMillis : τ → Float

namespace Clock

instance : Clock Float where
  zero := 0.0
  add a b := a + b
  sub a b := a - b
  max := Number.maximum
  lt a b := decide (a < b)
  le a b := decide (a ≤ b)
  ofMillis x := x
  toMillis x := x

variable {τ : Type} [Clock τ]

/-- A number of seconds as a duration. -/
def seconds (s : Float) : τ := ofMillis (s * 1000.0)

/-- The moment some seconds after another. -/
def after (start : τ) (s : Float) : τ := add start (seconds s)

/-- How long ago a moment is; nothing for one that is yet to come. -/
def ago (now moment : τ) : τ := max zero (sub now moment)

/-- How long it takes until a moment; nothing for one that is past. -/
def ahead (now moment : τ) : τ := max zero (sub moment now)

/-- Whether a moment has come. -/
def reached (now moment : τ) : Bool := le moment now

end Clock
end VisualNovel
