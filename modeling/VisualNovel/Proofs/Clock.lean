import VisualNovel.Clock
import VisualNovel.Proofs.Number.Difference
import VisualNovel.Proofs.Number.Monotone

/-!
Clocks that count exactly.

Most of what a game does with its clock is the same on every clock. Where moments are moved to the
clock of another game and back, it matters that nothing is lost on the way: `Clock.Exact` says that
differences of moments are exact. The clock of the processor rounds and is not exact; the clock that
counts whole milliseconds is. For a clock that begins at zero less is enough: `Clock.Rewinds` says
that a time that is not over stays so, which holds of both. So does `Clock.Forward`: later moments
are not less far from a moment that is past. A `Clock.Shift` puts all moments off without changing
the times between them; on an even clock any delay is one.
-/

namespace VisualNovel.Clock

/-- What a clock must satisfy for moments to be moved without loss. -/
structure Exact (τ : Type) [Clock τ] : Prop where
  sub_sub : ∀ a b : τ, sub a (sub a b) = b
  add_sub : ∀ a b : τ, sub (add a b) a = b
  max_max : ∀ a : τ, max zero (max zero a) = max zero a

section Exact

variable {τ : Type} [Clock τ]

theorem Exact.ago_sub (exact : Exact τ) (now taken moment : τ) :
    ago now (sub now (ago taken moment)) = ago taken moment := by
  rw [ago, exact.sub_sub]
  exact exact.max_max _

theorem Exact.ahead_add (exact : Exact τ) (now taken moment : τ) :
    ahead now (add now (ahead taken moment)) = ahead taken moment := by
  rw [ahead, exact.add_sub]
  exact exact.max_max _

end Exact

/-- What a clock must satisfy besides, for a game to be played the same at another time: nothing has
passed since now, and the later of two moments is not before the other one. -/
structure Ideal (τ : Type) [Clock τ] : Prop extends Exact τ where
  sub_self : ∀ a : τ, sub a a = zero
  max_zero : max (zero : τ) zero = zero
  le_max : ∀ a b : τ, le b (max a b) = true

/-- Whole milliseconds. A number that is not a whole one counts as nothing. -/
instance : Clock Int where
  zero := 0
  add a b := a + b
  sub a b := a - b
  max a b := if a < b then b else a
  lt a b := decide (a < b)
  le a b := decide (a ≤ b)
  ofMillis x := (Number.toNat? x).getD 0
  toMillis x := Float.ofInt x

theorem exact_int : Exact Int where
  sub_sub a b := by
    show a - (a - b) = b
    omega
  add_sub a b := by
    show a + b - a = b
    omega
  max_max a := by
    show (if 0 < (if 0 < a then a else 0) then (if 0 < a then a else 0) else (0 : Int)) =
      if 0 < a then a else 0
    by_cases ahead : 0 < a <;> simp [ahead]

theorem ideal_int : Ideal Int where
  toExact := exact_int
  sub_self a := by
    show a - a = 0
    omega
  max_zero := rfl
  le_max a b := by
    show decide (b ≤ if a < b then b else a) = true
    split
    · exact decide_eq_true (Int.le_refl b)
    · next later => exact decide_eq_true (Int.not_lt.mp later)

/-- What a clock must satisfy for a time that is not over to be moved to a clock at zero, and still
not to be over. -/
structure Rewinds (τ : Type) [Clock τ] : Prop where
  max_lt : ∀ {a b c : τ}, lt a c = true → lt b c = true → lt (max a b) c = true
  sub_sub_lt : ∀ {a b : τ}, lt a b = true → lt (sub zero (sub zero a)) b = true

theorem rewinds_int : Rewinds Int where
  max_lt {a b c} below below' := by
    show lt (if a < b then b else a) c = true
    split
    · exact below'
    · exact below
  sub_sub_lt {a b} below := by
    have same : (0 : Int) - (0 - a) = a := by omega
    show lt ((0 : Int) - (0 - a)) b = true
    rw [same]
    exact below

theorem rewinds_float : Rewinds Float where
  max_lt {a b c} below below' := by
    show lt (Number.maximum a b) c = true
    unfold Number.maximum
    split
    · exact below
    · split
      · exact below'
      · split
        · exact below'
        · exact below
  sub_sub_lt below := decide_eq_true (Number.zero_sub_sub_lt (of_decide_eq_true below))

/-- What a clock must satisfy for later moments to find what earlier ones found: the order of
moments is one, and what some time has passed since does not become more recent. -/
structure Forward (τ : Type) [Clock τ] : Prop where
  le_trans : ∀ {a b c : τ}, le a b = true → le b c = true → le a c = true
  sub_mono : ∀ {a b : τ} (start : τ), le a b = true → 0.0 < toMillis (sub a start) →
    toMillis (sub a start) ≤ toMillis (sub b start)

theorem forward_float : Forward Float where
  le_trans first second :=
    decide_eq_true (Number.le_trans (of_decide_eq_true first) (of_decide_eq_true second))
  sub_mono _ later some := Number.sub_mono (of_decide_eq_true later) some

theorem forward_int : Forward Int where
  le_trans first second :=
    decide_eq_true (Int.le_trans (of_decide_eq_true first) (of_decide_eq_true second))
  sub_mono start later some :=
    Number.ofInt_mono (Int.sub_le_sub_right (of_decide_eq_true later) start) some

/-- A change of all moments that leaves the times between them as they are. -/
structure Shift {τ : Type} [Clock τ] (f : τ → τ) : Prop where
  add : ∀ moment span : τ, Clock.add (f moment) span = f (Clock.add moment span)
  sub : ∀ moment span : τ, Clock.sub (f moment) span = f (Clock.sub moment span)
  between : ∀ a b : τ, Clock.sub (f a) (f b) = Clock.sub a b
  le : ∀ a b : τ, Clock.le (f a) (f b) = Clock.le a b

/-- A clock that runs evenly: the times between moments stay as they are when all moments are put
off by the same delay. -/
def Even (τ : Type) [Clock τ] : Prop := ∀ delay : τ, Shift fun moment : τ => Clock.add moment delay

theorem even_int : Even Int := by
  intro delay
  constructor <;> intro a b
  · show a + delay + b = a + b + delay
    omega
  · show a + delay - b = a - b + delay
    omega
  · show a + delay - (b + delay) = a - b
    omega
  · show decide (a + delay ≤ b + delay) = decide (a ≤ b)
    simp

namespace Shift

variable {τ : Type} [Clock τ] {f : τ → τ}

theorem after (shift : Shift f) (start : τ) (s : Float) :
    Clock.after (f start) s = f (Clock.after start s) := shift.add start (seconds s)

theorem ago (shift : Shift f) (now moment : τ) :
    Clock.ago (f now) (f moment) = Clock.ago now moment := by
  rw [Clock.ago, shift.between, Clock.ago]

theorem ahead (shift : Shift f) (now moment : τ) :
    Clock.ahead (f now) (f moment) = Clock.ahead now moment := by
  rw [Clock.ahead, shift.between, Clock.ahead]

theorem reached (shift : Shift f) (now moment : τ) :
    Clock.reached (f now) (f moment) = Clock.reached now moment := shift.le moment now

end Shift

end VisualNovel.Clock
