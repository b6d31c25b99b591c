import VisualNovel.Proofs.Number.Clamp
import VisualNovel.Proofs.Number.Nearest

/-!
Numbers without a fraction.

`Integral` numbers are the whole ones and the infinities. A sum of two of them is exact before it is
rounded, and what a whole number is rounded to is whole again: below `2 ^ 52` the number itself, and
from there on every number is whole. So sums and differences stay integral as long as they are not
the error value (`Integral.add`, `Integral.sub`). A positive integral number is at least one.
-/

namespace VisualNovel.Number

open Float.Model (UnpackedFloat Format)
open Float.Model.UnpackedFloat

/-! ## 1. Sizes -/

/-- The size `m * 2 ^ e` is a whole number. -/
def WholeSize (m : ℕ) (e : ℤ) : Prop := 2 ^ (-e).toNat ∣ m

theorem wholeSize_of_nonneg {m : ℕ} {e : ℤ} (h : 0 ≤ e) : WholeSize m e := by
  have none : (-e).toNat = 0 := by omega
  rw [WholeSize, none, Nat.pow_zero]
  exact Nat.one_dvd m

/-- A whole size that is not zero is one at least. -/
theorem WholeSize.log2_add {m : ℕ} {e : ℤ} (h : WholeSize m e) (pos : 0 < m) : 0 ≤ m.log2 + e := by
  have least : (-e).toNat ≤ m.log2 := (Nat.le_log2 pos.ne').mpr (Nat.le_of_dvd pos h)
  omega

/-- More places behind the significand. -/
theorem WholeSize.shift {m : ℕ} {e : ℤ} (h : WholeSize m e) (k : ℕ) :
    WholeSize (m * 2 ^ k) (e - k) := by
  have places : 2 ^ (-(e - k)).toNat ∣ 2 ^ (-e).toNat * 2 ^ k := by
    rw [← Nat.pow_add]
    exact Nat.pow_dvd_pow 2 (by omega)
  exact places.trans (Nat.mul_dvd_mul_right h _)

/-- A number is near to itself. -/
theorem near_self (m : ℕ) (p : ℤ) : Near m p (m * 2 ^ p) := by
  have gap := gapBelow_pos m p
  have scale : (0 : ℚ) < 2 ^ p := by positivity
  refine ⟨?_, ?_, fun _ => ⟨?_, ?_⟩⟩
  · exact mul_le_mul_of_nonneg_right (by linarith) scale.le
  · exact mul_le_mul_of_nonneg_right (by linarith) scale.le
  · exact mul_lt_mul_of_pos_right (by linarith) scale
  · exact mul_lt_mul_of_pos_right (by linarith) scale

/-- A whole size is rounded to a whole size of the full width. -/
theorem round_whole {m : ℕ} {e : ℤ} (whole : WholeSize m e) (pos : 0 < m) (s : Sign) :
    ∃ k f some, UnpackedFloat.round .binary64 s m e = .finite s k f some ∧ k.log2 = 52 ∧
      WholeSize k f := by
  have size := whole.log2_add pos
  have target : max ((m.log2 : ℤ) + e - 52) (-1074) = m.log2 + e - 52 := by omega
  -- The significand is widened to the full width before it is rounded.
  obtain ⟨a, wide, widened⟩ : ∃ a : ℕ, 52 ≤ m.log2 + a ∧
      UnpackedFloat.round .binary64 s m e =
        roundWithAccuracy .binary64 s (m * 2 ^ a) (e - a) .exact := by
    refine ⟨(e - (m.log2 + e - 52)).toNat, by omega, ?_⟩
    simp only [UnpackedFloat.round, decreaseExponent, targetExponent_eq, target, Nat.shiftLeft_eq]
  have log : (m * 2 ^ a).log2 = m.log2 + a := log2_mul_two_pow pos a
  rw [widened]
  rcases Int.lt_or_le (m.log2 + e) 52 with small | large
  · -- What is cut off is empty, and the number is the size itself.
    obtain ⟨c, cut⟩ : ∃ c : ℕ, m.log2 + a = 52 + c := ⟨m.log2 + a - 52, by omega⟩
    have places : (-(e - a)).toNat = (-(m.log2 + e - 52)).toNat + c := by omega
    obtain ⟨v, same⟩ := whole.shift a
    rw [places, Nat.pow_add, Nat.mul_right_comm] at same
    have full : (2 ^ (-(m.log2 + e - 52)).toNat * v).log2 = 52 := by
      have some : 0 < 2 ^ (-(m.log2 + e - 52)).toNat * v := by
        rcases Nat.eq_zero_or_pos (2 ^ (-(m.log2 + e - 52)).toNat * v) with zero | some
        · rw [zero, Nat.zero_mul] at same
          exact absurd same (Nat.mul_pos pos (Nat.two_pow_pos a)).ne'
        · exact some
      rw [same, log2_mul_two_pow some] at log
      omega
    have some : 0 < 2 ^ (-(m.log2 + e - 52)).toNat * v := by
      by_contra zero
      rw [Nat.eq_zero_of_not_pos zero] at full
      simp at full
    refine ⟨_, m.log2 + e - 52, some, ?_, full, Nat.dvd_mul_right _ _⟩
    have exact' : ((m * 2 ^ a : ℕ) : ℚ) * 2 ^ (e - a) =
        (2 ^ (-(m.log2 + e - 52)).toNat * v : ℕ) * 2 ^ ((m.log2 : ℤ) + e - 52) := by
      rw [same, Nat.cast_mul (_ * v), Nat.cast_pow, Nat.cast_ofNat, mul_assoc, ← zpow_natCast,
        ← zpow_add₀ two_ne_zero]
      congr 2
      omega
    refine roundWithAccuracy_near (remembers_exact _) (by omega) (.inr ⟨full, by omega, by omega⟩)
      some ?_ s
    rw [exact']
    exact near_self _ _
  · obtain ⟨k, f, some, same, full, above⟩ :=
      roundWithAccuracy_great (m := m * 2 ^ a) (e := e - a) (by omega) (by omega) s
    exact ⟨k, f, some, same, full, wholeSize_of_nonneg above⟩

/-! ## 2. Numbers in two forms -/

/-- A finite number that is not zero, taken apart in both ways. -/
theorem unpack_of_parts {x : Float} {negative : Bool} {m : ℕ} {p : ℤ}
    (h : parts x = .finite negative m p) (pos : 0 < m) :
    x.toModel.unpack = .finite (if negative then .negative else .positive) m p pos := by
  have fits := fits_of_parts h
  obtain ⟨s, sign, same⟩ : ∃ s : Sign, (s.toBitVec.toNat == 1) = negative ∧
      s = if negative then .negative else .positive := by
    cases negative with
    | false => exact ⟨.positive, rfl, rfl⟩
    | true => exact ⟨.negative, rfl, rfl⟩
  have packed : x = .ofModel (Float.Model.pack (.finite s m p pos)) :=
    eq_of_parts h (sign ▸ parts_pack_of_fits fits pos s)
  rw [← same, packed]
  exact unpack_pack_of_fits fits pos s

/-- A number without a size is a zero. -/
theorem unpack_of_no_size {x : Float} {negative : Bool} {p : ℤ}
    (h : parts x = .finite negative 0 p) : ∃ s, x.toModel.unpack = .zero s := by
  apply unpack_of_toNat?_zero
  rw [toNat?, h]
  cases negative <;> simp

/-- A number that is not finite is the error value or an infinity, and the others are not. -/
theorem isFinite_iff {x : Float} :
    isFinite x = true ↔ (∃ s, x.toModel.unpack = .zero s) ∨
      ∃ s m e pos, x.toModel.unpack = .finite s m e pos := by
  constructor
  · intro finite
    unfold isFinite at finite
    split at finite
    · next negative m p form =>
      rcases Nat.eq_zero_or_pos m with rfl | pos
      · left
        exact unpack_of_no_size form
      · exact .inr ⟨_, m, p, pos, unpack_of_parts form pos⟩
    · cases finite
  · intro form
    by_contra other
    rcases unpack_of_not_finite (Bool.not_eq_true _ ▸ other) with same | ⟨t, same⟩
    · rw [same] at form
      simp at form
    · rw [same] at form
      simp at form

/-- An unpacked number without a fraction. -/
def NoFraction : UnpackedFloat → Prop
  | .notANumber => False
  | .infinity _ | .zero _ => True
  | .finite _ m e _ => WholeSize m e

/-- A whole number or an infinity. -/
def Integral (x : Float) : Prop := NoFraction x.toModel.unpack

variable {x y : Float}

theorem Integral.ordered (h : Integral x) : Ordered x := by
  intro none
  rw [Integral, none] at h
  exact h

theorem isWhole_iff : isWhole x = true ↔ Integral x ∧ isFinite x = true := by
  cases form : parts x with
  | nan =>
    have other : isFinite x = false := by rw [isFinite, form]
    simp [isWhole, form, other]
  | infinite negative =>
    have other : isFinite x = false := by rw [isFinite, form]
    simp [isWhole, form, other]
  | finite negative m p =>
    have finite : isFinite x = true := by rw [isFinite, form]
    rcases Nat.eq_zero_or_pos m with rfl | pos
    · obtain ⟨s, same⟩ := unpack_of_no_size form
      simp [isWhole, form, finite, Integral, same, NoFraction]
    · simp only [isWhole, form, finite, Integral, unpack_of_parts form pos, NoFraction, WholeSize]
      rcases Int.lt_or_le p 0 with below | above
      · simp [Nat.dvd_iff_mod_eq_zero, not_le.mpr below]
      · have none : (-p).toNat = 0 := by omega
        simp [none, above]

theorem integral_of_isWhole (h : isWhole x = true) : Integral x := (isWhole_iff.mp h).1

theorem Integral.isWhole (h : Integral x) (finite : isFinite x = true) : isWhole x = true :=
  isWhole_iff.mpr ⟨h, finite⟩

/-! ## 3. Results of arithmetic -/

theorem unpack_pack_zero (s : Sign) :
    UnpackedFloat.unpack .binary64 (UnpackedFloat.pack .binary64 (.zero s)) = .zero s := by
  cases s <;> rfl

theorem unpack_pack_infinity (s : Sign) :
    UnpackedFloat.unpack .binary64 (UnpackedFloat.pack .binary64 (.infinity s)) = .infinity s := by
  cases s <;> rfl

/-- A significand of the full width comes back from its bits, or is too great for them. -/
theorem unpack_pack_wide {k : ℕ} {f : ℤ} (some : 0 < k) (wide : k.log2 = 52) (least : -1074 ≤ f)
    (s : Sign) :
    UnpackedFloat.unpack .binary64 (UnpackedFloat.pack .binary64 (.finite s k f some)) =
      if f < 972 then .finite s k f some else .infinity s := by
  split
  · next inside => exact unpack_pack_of_fits (.inr ⟨wide, least, inside⟩) some s
  · next outside =>
    have bias : Format.binary64.exponentBias = 1023 := rfl
    have above : 2 ^ 11 ≤ (f + 1023 + 52).toNat + 1 := by omega
    have packed : UnpackedFloat.pack .binary64 (.finite s k f some) =
        packedInfinity .binary64 s := if_pos above
    rw [packed]
    exact unpack_pack_infinity s

/-- What a whole sum is rounded to: a number without a fraction, of the sign of the sum. -/
theorem normalize_whole {m : ℤ} {e : ℤ} (whole : WholeSize m.natAbs e) :
    let u := UnpackedFloat.unpack .binary64
      (UnpackedFloat.pack .binary64 (UnpackedFloat.normalize .binary64 m e .positive))
    NoFraction u ∧ (m = 0 → u = .zero .positive) ∧ (0 < m → UnpackedFloat.lt (.zero .positive) u) := by
  have rounded : ∀ {n : ℕ}, WholeSize n e → 0 < n → ∀ s : Sign,
      let u := UnpackedFloat.unpack .binary64
        (UnpackedFloat.pack .binary64 (UnpackedFloat.round .binary64 s n e))
      NoFraction u ∧ (s = .positive → UnpackedFloat.lt (.zero .positive) u) := by
    intro n whole pos s
    obtain ⟨k, f, some, same, wide, size⟩ := round_whole whole pos s
    have least : -1074 ≤ f := by
      have := size.log2_add some
      omega
    simp only [same, unpack_pack_wide some wide least s]
    split
    · refine ⟨size, ?_⟩
      rintro rfl
      rfl
    · refine ⟨trivial, ?_⟩
      rintro rfl
      rfl
  rcases lt_trichotomy m 0 with below | rfl | above
  · have size : (-m).toNat = m.natAbs := by omega
    simp only [UnpackedFloat.normalize, Int.compare_eq_lt.mpr below, size]
    obtain ⟨none, -⟩ := rounded whole (by omega) .negative
    exact ⟨none, by omega, by omega⟩
  · have zero : UnpackedFloat.normalize .binary64 0 e .positive = .zero .positive := rfl
    simp [zero, unpack_pack_zero, NoFraction]
  · have size : m.toNat = m.natAbs := by omega
    simp only [UnpackedFloat.normalize, Int.compare_eq_gt.mpr above, size]
    obtain ⟨none, sign⟩ := rounded whole (by omega) .positive
    exact ⟨none, by omega, fun _ => sign rfl⟩

/-- Places behind a whole size, down to a lower power. -/
theorem WholeSize.decrease {m : ℕ} {e d : ℤ} (h : WholeSize m e) (below : d ≤ e) :
    WholeSize (m * 2 ^ (e - d).toNat) d := by
  have shifted := h.shift (e - d).toNat
  rwa [show e - ((e - d).toNat : ℤ) = d by omega] at shifted

theorem natAbs_apply (s : Sign) (m : ℕ) : (s.apply (m : ℤ)).natAbs = m := by
  cases s
  · exact Int.natAbs_neg _
  · rfl

/-- The sum of two finite numbers, in the places of the finer one. -/
theorem add_finite {s t : Sign} {m n : ℕ} {e f : ℤ} {hm : 0 < m} {hn : 0 < n} :
    UnpackedFloat.add .binary64 (.finite s m e hm) (.finite t n f hn) =
      UnpackedFloat.normalize .binary64 (s.apply ((m * 2 ^ (e - min e f).toNat : ℕ) : ℤ) +
        t.apply ((n * 2 ^ (f - min e f).toNat : ℕ) : ℤ)) (min e f) .positive := by
  simp only [UnpackedFloat.add, decreaseExponent, Nat.shiftLeft_eq]

/-- Such a sum of whole sizes is whole. -/
theorem wholeSize_sum {s t : Sign} {m n : ℕ} {e f : ℤ} (first : WholeSize m e)
    (second : WholeSize n f) :
    WholeSize (s.apply ((m * 2 ^ (e - min e f).toNat : ℕ) : ℤ) +
      t.apply ((n * 2 ^ (f - min e f).toNat : ℕ) : ℤ)).natAbs (min e f) := by
  have divides : ∀ {s : Sign} {a : ℕ} {d : ℤ}, WholeSize a d →
      ((2 ^ (-d).toNat : ℕ) : ℤ) ∣ s.apply (a : ℤ) :=
    fun {s a d} h => Int.natCast_dvd.mpr (by rw [natAbs_apply]; exact h)
  have left := divides (s := s) (first.decrease (min_le_left e f))
  have right := divides (s := t) (second.decrease (min_le_right e f))
  exact Int.natCast_dvd.mp (Int.dvd_add left right)

/-- A number comes back from its bits. -/
theorem unpack_pack_unpack (x : Float) :
    UnpackedFloat.unpack .binary64 (UnpackedFloat.pack .binary64 x.toModel.unpack) =
      x.toModel.unpack := by
  cases form : x.toModel.unpack with
  | notANumber => rfl
  | infinity s => exact unpack_pack_infinity s
  | zero s => exact unpack_pack_zero s
  | finite s m e pos => exact unpack_pack_of_fits (fits_of_unpack form) pos s

theorem zero_lt_iff : 0.0 < x ↔ UnpackedFloat.lt (.zero .positive) x.toModel.unpack = true := by
  rw [lt_iff_unpack, unpack_zero]

/-- What a positive number is. -/
theorem unpack_of_pos (pos : 0.0 < x) : x.toModel.unpack = .infinity .positive ∨
    ∃ m e some, x.toModel.unpack = .finite .positive m e some := by
  rw [zero_lt_iff] at pos
  cases form : x.toModel.unpack with
  | notANumber | zero =>
    rw [form] at pos
    cases pos
  | infinity s =>
    rw [form] at pos
    cases s with
    | positive => exact .inl rfl
    | negative => cases pos
  | finite s m e some =>
    rw [form] at pos
    cases s with
    | positive => exact .inr ⟨m, e, some, rfl⟩
    | negative => cases pos

/-! ## 4. Sums and differences -/

theorem unpack_add (x y : Float) : (x + y).toModel.unpack = UnpackedFloat.unpack .binary64
    (UnpackedFloat.pack .binary64 (UnpackedFloat.add .binary64 x.toModel.unpack y.toModel.unpack)) :=
  rfl

/-- A sum of numbers without a fraction, of which one is finite. -/
theorem Integral.add (hx : Integral x) (hy : Integral y) (finite : isFinite y = true) :
    Integral (x + y) := by
  rw [Integral, unpack_add]
  rcases isFinite_iff.mp finite with ⟨t, form⟩ | ⟨t, n, f, hn, form⟩
  · cases first : x.toModel.unpack with
    | notANumber => exact absurd first hx.ordered
    | infinity s =>
      rw [form]
      exact (unpack_pack_infinity s).symm ▸ trivial
    | zero s =>
      rw [form]
      cases s <;> cases t <;> trivial
    | finite s m e hm =>
      have same : UnpackedFloat.add .binary64 (.finite s m e hm) (.zero t) = x.toModel.unpack :=
        first.symm
      rw [form, same, unpack_pack_unpack]
      exact hx
  · cases first : x.toModel.unpack with
    | notANumber => exact absurd first hx.ordered
    | infinity s =>
      rw [form]
      exact (unpack_pack_infinity s).symm ▸ trivial
    | zero s =>
      have same : UnpackedFloat.add .binary64 (.zero s) y.toModel.unpack = y.toModel.unpack := by
        rw [form]
        rfl
      rw [same, unpack_pack_unpack]
      exact hy
    | finite s m e hm =>
      rw [Integral, first] at hx
      rw [Integral, form] at hy
      rw [form, add_finite]
      exact (normalize_whole (wholeSize_sum hx hy)).1

/-- A sum of positive numbers without a fraction, of which one is finite. -/
theorem Integral.add_pos (hx : Integral x) (hy : Integral y) (finite : isFinite y = true)
    (px : 0.0 < x) (py : 0.0 < y) : 0.0 < x + y := by
  obtain ⟨n, f, hn, form⟩ : ∃ n f hn, y.toModel.unpack = .finite .positive n f hn := by
    rcases unpack_of_pos py with same | found
    · rcases isFinite_iff.mp finite with ⟨t, form⟩ | ⟨t, n, f, hn, form⟩
      · rw [same] at form
        cases form
      · rw [same] at form
        cases form
    · exact found
  rw [zero_lt_iff, unpack_add, form]
  rcases unpack_of_pos px with first | ⟨m, e, hm, first⟩
  · rw [first]
    exact (unpack_pack_infinity .positive).symm ▸ rfl
  · rw [Integral, first] at hx
    rw [Integral, form] at hy
    rw [first, add_finite]
    refine (normalize_whole (wholeSize_sum hx hy)).2.2 ?_
    have left := Nat.mul_pos hm (Nat.two_pow_pos (e - min e f).toNat)
    show 0 < ((m * 2 ^ (e - min e f).toNat : ℕ) : ℤ) + (n * 2 ^ (f - min e f).toNat : ℕ)
    omega

theorem unpack_neg (y : Float) : (-y).toModel.unpack = y.toModel.unpack.neg := by
  show UnpackedFloat.unpack .binary64 (UnpackedFloat.pack .binary64 y.toModel.unpack.neg) = _
  cases form : y.toModel.unpack with
  | notANumber => rfl
  | infinity s => exact unpack_pack_infinity (-s)
  | zero s => exact unpack_pack_zero (-s)
  | finite s m e pos => exact unpack_pack_of_fits (fits_of_unpack form) pos (-s)

/-- A difference is the sum with the other sign. -/
theorem sub_eq_add_neg (x y : Float) : x - y = x + -y := by
  have signs : ∀ (t : Sign) (n : ℤ), (-t).apply n = -(t.apply n) := by
    rintro ⟨⟩ n
    · exact (Int.neg_neg n).symm
    · rfl
  have twice : ∀ s t : Sign, (s == -(-t)) = (s == t) := by rintro ⟨⟩ ⟨⟩ <;> rfl
  have same : UnpackedFloat.sub .binary64 x.toModel.unpack y.toModel.unpack =
      UnpackedFloat.add .binary64 x.toModel.unpack (-y).toModel.unpack := by
    rw [unpack_neg]
    cases x.toModel.unpack <;> cases y.toModel.unpack <;>
      grind [UnpackedFloat.sub, UnpackedFloat.add, UnpackedFloat.neg]
  exact congrArg (fun u => Float.ofModel (Float.Model.pack u)) same

theorem Integral.neg (h : Integral x) : Integral (-x) := by
  rw [Integral, unpack_neg]
  unfold Integral at h
  revert h
  cases x.toModel.unpack <;> exact id

theorem isFinite_neg (h : isFinite x = true) : isFinite (-x) = true := by
  rw [isFinite_iff, unpack_neg]
  rcases isFinite_iff.mp h with ⟨s, form⟩ | ⟨s, m, e, pos, form⟩
  · rw [form]
    exact .inl ⟨-s, rfl⟩
  · rw [form]
    exact .inr ⟨-s, m, e, pos, rfl⟩

/-- A difference of numbers without a fraction, of which the second is finite. -/
theorem Integral.sub (hx : Integral x) (hy : Integral y) (finite : isFinite y = true) :
    Integral (x - y) := by
  rw [sub_eq_add_neg]
  exact hx.add hy.neg (isFinite_neg finite)

/-! ## 5. Bounds -/

theorem unpack_literal_one : (1.0 : Float).toModel.unpack =
    .finite .positive (2 ^ 52) (-52) (Nat.two_pow_pos 52) := by
  have bits : (1.0 : Float) = .ofBits 0x3FF0000000000000 := by decide
  rw [bits]
  exact unpack_one

theorem integral_one : Integral 1.0 := integral_of_isWhole (by decide)

/-- A positive number without a fraction is one at least. -/
theorem Integral.one_le (h : Integral x) (pos : 0.0 < x) : 1.0 ≤ x := by
  rw [le_iff_not_lt h.ordered integral_one.ordered, lt_iff_unpack, unpack_literal_one]
  rcases unpack_of_pos pos with form | ⟨m, e, some, form⟩
  · rw [form]
    exact nofun
  · have fits := fits_of_unpack form
    have narrow := fits.lt_two_pow
    rw [Integral, form] at h
    have size : 2 ^ (-e).toNat ≤ m := Nat.le_of_dvd some h
    rw [form]
    intro less
    simp only [UnpackedFloat.lt, UnpackedFloat.compare, beq_iff_eq, Option.some.injEq,
      Ordering.then_eq_lt, Int.compare_eq_lt, Int.compare_eq_eq, Nat.compare_eq_lt] at less
    rcases less with below | ⟨rfl, below⟩
    · have wide : 2 ^ 53 ≤ 2 ^ (-e).toNat := Nat.pow_le_pow_right (by decide) (by omega)
      omega
    · exact absurd size (by simpa using below)

/-- One less than a positive number without a fraction is not negative. -/
theorem Integral.zero_le_sub_one (h : Integral x) (pos : 0.0 < x) : 0.0 ≤ x - 1.0 := by
  have least : Integral (x - 1.0) := h.sub integral_one (by decide)
  have zero : Ordered 0.0 := by decide
  have minus : (-1.0 : Float).toModel.unpack =
      .finite .negative (2 ^ 52) (-52) (Nat.two_pow_pos 52) := by
    rw [unpack_neg, unpack_literal_one]
    rfl
  rw [le_iff_not_lt least.ordered zero, lt_iff_unpack, unpack_zero, sub_eq_add_neg, unpack_add, minus]
  rcases unpack_of_pos pos with form | ⟨m, e, hm, form⟩
  · rw [form]
    exact Bool.false_ne_true
  · rw [Integral, form] at h
    have one : WholeSize (2 ^ 52) (-52) := Nat.dvd_refl _
    obtain ⟨-, none, some⟩ := normalize_whole (wholeSize_sum (s := .positive) (t := .negative) h one)
    -- What is taken away is one unit, and no positive whole size is less.
    have unit : 2 ^ 52 * 2 ^ (-52 - min e (-52)).toNat = 2 ^ (-min e (-52)).toNat := by
      rw [← Nat.pow_add]
      congr 1
      omega
    have least : 2 ^ (-min e (-52)).toNat ≤ m * 2 ^ (e - min e (-52)).toNat :=
      Nat.le_of_dvd (Nat.mul_pos hm (Nat.two_pow_pos _)) (h.decrease (min_le_left e (-52)))
    rw [form, add_finite]
    rcases Nat.eq_or_lt_of_le (unit ▸ least) with same | less
    · rw [none]
      · exact Bool.false_ne_true
      · show ((m * 2 ^ (e - min e (-52)).toNat : ℕ) : ℤ) +
          -((2 ^ 52 * 2 ^ (-52 - min e (-52)).toNat : ℕ) : ℤ) = 0
        omega
    · have ahead := some (by
        show 0 < ((m * 2 ^ (e - min e (-52)).toNat : ℕ) : ℤ) +
          -((2 ^ 52 * 2 ^ (-52 - min e (-52)).toNat : ℕ) : ℤ)
        omega)
      revert ahead
      generalize UnpackedFloat.unpack .binary64 _ = u
      rw [UnpackedFloat.lt, UnpackedFloat.lt, compare_swap]
      cases u.compare (.zero .positive) with
      | none => exact fun _ => Bool.false_ne_true
      | some o => cases o <;> simp

/-! ## 6. Whole numbers nearby -/

/-- What is not finite has no fraction, unless it is the error value. -/
theorem integral_of_not_finite (h : Ordered x) (infinite : isFinite x = false) : Integral x := by
  rcases unpack_of_not_finite infinite with same | ⟨s, same⟩
  · exact absurd same h
  · rw [Integral, same]
    trivial

theorem isWhole_of_toNat? {n : ℕ} (h : toNat? x = some n) : isWhole x = true := by
  obtain ⟨negative, m, p, form, -, below, -⟩ := toNat?_eq_some h
  rw [isWhole, form]
  rcases Int.lt_or_le p 0 with less | more
  · simp [below less]
  · simp [more]

theorem ordered_ofNat (n : ℕ) : Ordered (Float.ofNat n) := ordered_ofScientific n false 0

theorem integral_ofNat (n : ℕ) : Integral (Float.ofNat n) := by
  rcases Nat.lt_or_ge n (2 ^ 52) with small | large
  · exact integral_of_isWhole (isWhole_of_toNat? (toNat?_ofNat (by omega)))
  · cases finite : isFinite (Float.ofNat n) with
    | false => exact integral_of_not_finite (ordered_ofNat n) finite
    | true =>
      obtain ⟨m, whole, -⟩ := great_ofNat large finite
      exact integral_of_isWhole (isWhole_of_toNat? whole)

theorem integral_ofSigned (negative : Bool) (n : ℕ) : Integral (ofSigned negative n) := by
  cases negative with
  | false => exact integral_ofNat n
  | true => exact (integral_ofNat n).neg

/-- The greatest whole number below has no fraction. -/
theorem integral_floor (h : Ordered x) : Integral (floor x) := by
  cases finite : isFinite x with
  | false =>
    have same : floor x = x := by
      unfold isFinite at finite
      unfold floor
      split
      · next form => simp [form] at finite
      · rfl
    rw [same]
    exact integral_of_not_finite h finite
  | true =>
    unfold floor
    split
    · next negative m p form =>
      have whole : p ≥ 0 ∨ m % Nat.pow 2 (-p).toNat = 0 → Integral x := by
        intro whole
        apply integral_of_isWhole
        rw [isWhole, form]
        simpa using whole
      split
      · next above => exact whole (.inl above)
      · simp only
        split
        · next exact' => exact whole (.inr (beq_iff_eq.mp exact'))
        · exact integral_ofSigned _ _
    · next other =>
      unfold isFinite at finite
      split at finite
      · next form => exact absurd form (other _ _ _)
      · cases finite

/-- The least whole number above has no fraction. -/
theorem integral_ceil (h : Ordered x) : Integral (ceil x) := (integral_floor (ordered_neg h)).neg

end VisualNovel.Number
