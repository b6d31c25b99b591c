import VisualNovel.Proofs.Number.Integral

/-!
Numbers between bounds.

What lies between zero and a finite number is finite, and a number without a fraction that lies between
zero and a count is a count (`toNat?_of_between`). A number without a fraction that is moved into such a
range therefore names one of so many entries, however great or small it was before
(`Ordinal.clampTo_lands`).
-/

namespace VisualNovel.Number

open Float.Model (UnpackedFloat)
open Float.Model.UnpackedFloat

variable {x y : Float}

/-! ## 1. The order of numbers -/

theorem integral_zero : Integral 0.0 := by
  rw [Integral, unpack_zero]
  trivial

theorem not_lt_self (x : Float) : ¬ x < x := by
  rw [lt_iff_unpack]
  cases x.toModel.unpack with
  | notANumber | zero => exact nofun
  | infinity s => cases s <;> exact nofun
  | finite s m e pos =>
    cases s <;> simp [UnpackedFloat.lt, UnpackedFloat.compare]

theorem le_refl (h : Ordered x) : x ≤ x := (le_iff_not_lt h h).mpr (not_lt_self x)

theorem le_of_lt (h : x < y) : x ≤ y := by
  obtain ⟨hx, hy⟩ := ordered_of_lt h
  rw [le_iff_not_lt hy hx]
  rw [lt_iff_unpack] at h ⊢
  rw [UnpackedFloat.lt, compare_swap]
  rw [UnpackedFloat.lt, beq_iff_eq] at h
  rw [h]
  exact Bool.false_ne_true

/-- What is one at least is positive. -/
theorem pos_of_one_le (h : Ordered x) (least : 1.0 ≤ x) : 0.0 < x := by
  have less := (le_iff_not_lt h integral_one.ordered).mp least
  rw [lt_iff_unpack, unpack_literal_one] at less
  rw [zero_lt_iff]
  unfold Ordered at h
  revert h less
  cases x.toModel.unpack with
  | notANumber => exact fun h => absurd rfl h
  | zero s => exact fun _ less => absurd rfl less
  | infinity s =>
    cases s with
    | positive => exact fun _ _ => rfl
    | negative => exact fun _ less => absurd rfl less
  | finite s =>
    cases s with
    | positive => exact fun _ _ => rfl
    | negative => exact fun _ less => absurd rfl less

/-- What is not zero at most is positive. -/
theorem pos_of_not_le (h : Ordered x) (more : ¬ x ≤ 0.0) : 0.0 < x := by
  rw [le_iff_not_lt integral_zero.ordered h] at more
  exact Decidable.not_not.mp more

/-! ## 2. Numbers that are moved -/

theorem isNaN_of_ordered (h : Ordered x) : x.isNaN = false := by
  show x.toModel.unpack.isNaN = false
  unfold Ordered at h
  revert h
  cases x.toModel.unpack with
  | notANumber => exact fun h => absurd rfl h
  | _ => exact fun _ => rfl

theorem maximum_eq_or (x y : Float) : maximum x y = x ∨ maximum x y = y := by
  unfold maximum
  split
  · exact .inl rfl
  · split
    · exact .inr rfl
    · split
      · exact .inr rfl
      · exact .inl rfl

theorem minimum_eq_or (x y : Float) : minimum x y = x ∨ minimum x y = y := by
  unfold minimum
  split
  · exact .inl rfl
  · split
    · exact .inr rfl
    · split
      · exact .inr rfl
      · exact .inl rfl

theorem le_maximum (hx : Ordered x) (hy : Ordered y) : x ≤ maximum x y := by
  rw [maximum, isNaN_of_ordered hx, isNaN_of_ordered hy, if_neg Bool.false_ne_true,
    if_neg Bool.false_ne_true]
  split
  · next less => exact le_of_lt less
  · exact le_refl hx

theorem minimum_le (hx : Ordered x) (hy : Ordered y) : minimum x y ≤ x := by
  rw [minimum, isNaN_of_ordered hx, isNaN_of_ordered hy, if_neg Bool.false_ne_true,
    if_neg Bool.false_ne_true]
  split
  · next less => exact le_of_lt less
  · exact le_refl hx

/-- A number without a fraction is moved into a range between such numbers. -/
theorem Integral.clamp {low high : Float} (hx : Integral x) (hlow : Integral low)
    (hhigh : Integral high) (inside : low ≤ high) :
    Integral (clamp x low high) ∧ low ≤ Number.clamp x low high ∧ Number.clamp x low high ≤ high := by
  have most : Integral (maximum low x) := by
    rcases maximum_eq_or low x with same | same
    · exact same.symm ▸ hlow
    · exact same.symm ▸ hx
  refine ⟨?_, ?_, minimum_le hhigh.ordered most.ordered⟩
  · rcases minimum_eq_or high (maximum low x) with same | same
    · exact (same.symm ▸ hhigh : Integral (minimum high (maximum low x)))
    · exact (same.symm ▸ most : Integral (minimum high (maximum low x)))
  · rw [Number.clamp]
    rcases minimum_eq_or high (maximum low x) with same | same
    · rw [same]
      exact inside
    · rw [same]
      exact le_maximum hlow.ordered hx.ordered

/-! ## 3. Numbers between bounds -/

/-- The sign of a zero does not matter for the bounds of a number. -/
theorem integral_congr (same : unsigned x = unsigned y) (h : Integral x) : Integral y := by
  rcases unsigned_cases same with rfl | ⟨s, t, -, form⟩
  · exact h
  · rw [Integral, form]
    trivial

theorem le_congr {x' y' : Float} (hx : unsigned x = unsigned x') (hy : unsigned y = unsigned y')
    (h : x ≤ y) (ox : Ordered x) (oy : Ordered y) (ox' : Ordered x') (oy' : Ordered y') :
    x' ≤ y' := by
  rw [le_iff_not_lt oy' ox', ← lt_congr hy hx, ← le_iff_not_lt oy ox]
  exact h

/-- What is between zero and a finite number is finite. -/
theorem isFinite_of_between (hx : Ordered x) (least : 0.0 ≤ x) (most : x ≤ y)
    (finite : isFinite y = true) : isFinite x = true := by
  by_contra other
  have zero : Ordered 0.0 := by decide
  rcases unpack_of_not_finite (Bool.not_eq_true _ ▸ other) with same | ⟨s, same⟩
  · exact hx same
  · cases s with
    | negative =>
      refine (le_iff_not_lt hx zero).mp least (lt_iff_unpack.mpr ?_)
      rw [same, unpack_zero]
      rfl
    | positive =>
      refine (le_iff_not_lt (ordered_of_isFinite finite) hx).mp most (lt_iff_unpack.mpr ?_)
      rw [same]
      rcases isFinite_iff.mp finite with ⟨t, form⟩ | ⟨t, m, e, pos, form⟩
      · rw [form]
        rfl
      · rw [form]
        cases t <;> rfl

/-- Counts are in order. -/
theorem ofNat_lt_ofNat {m n : ℕ} (less : m < n) (small : n < 2 ^ 52) :
    Float.ofNat m < Float.ofNat n := by
  have some : 0 < n := Nat.zero_lt_of_lt less
  have short : n.log2 < 52 := (Nat.log2_lt some.ne').mpr small
  obtain ⟨t, width⟩ : ∃ t, n.log2 + t = 52 := ⟨52 - n.log2, by omega⟩
  rcases Nat.eq_zero_or_pos m with rfl | pos
  · have zero : (Float.ofNat 0).toModel.unpack = .zero .positive := rfl
    rw [lt_iff_unpack, unpack_ofNat some width, zero]
    rfl
  · have log : m.log2 ≤ n.log2 := by
      rw [Nat.le_log2 some.ne']
      exact (Nat.log2_self_le pos.ne').trans less.le
    obtain ⟨s, width'⟩ : ∃ s, m.log2 + s = 52 := ⟨52 - m.log2, by omega⟩
    rcases Nat.eq_or_lt_of_le log with same | below
    · obtain rfl : s = t := by omega
      rw [lt_iff_unpack, unpack_ofNat some width, unpack_ofNat pos width']
      have places : m * 2 ^ s < n * 2 ^ s := Nat.mul_lt_mul_of_pos_right less (Nat.two_pow_pos s)
      simpa [UnpackedFloat.lt, UnpackedFloat.compare] using Nat.compare_eq_lt.mpr places
    · exact lt_of_unpack (unpack_ofNat pos width') (unpack_ofNat some width) (by omega)

theorem zero_le_ofNat {n : ℕ} (small : n < 2 ^ 52) : 0.0 ≤ Float.ofNat n := by
  have zero : Float.ofNat 0 = 0.0 := by decide
  rw [← zero]
  rcases Nat.eq_zero_or_pos n with rfl | some
  · exact le_refl (ordered_ofNat 0)
  · exact le_of_lt (ofNat_lt_ofNat some small)

/-- A finite number without a fraction that is not negative is a natural number. -/
theorem toNat?_of_integral (hx : Integral x) (least : 0.0 ≤ x) (finite : isFinite x = true) :
    ∃ k, toNat? x = some k := by
  have whole := hx.isWhole finite
  unfold isWhole at whole
  split at whole
  · next negative m p form =>
    have plus : negative = true → m = 0 := by
      rintro rfl
      by_contra some
      have pos : 0 < m := Nat.pos_of_ne_zero some
      refine (le_iff_not_lt hx.ordered (by decide)).mp least (lt_iff_unpack.mpr ?_)
      rw [unpack_of_parts form pos, unpack_zero]
      rfl
    rw [toNat?, form]
    rcases Int.lt_or_le p 0 with below | above
    · have exact' : m % 2 ^ (-p).toNat = 0 := by simpa [not_le.mpr below] using whole
      cases negative with
      | false => exact ⟨m / 2 ^ (-p).toNat, by simp [not_le.mpr below, exact']⟩
      | true => exact ⟨0, by simp [plus rfl, not_le.mpr below]⟩
    · cases negative with
      | false => exact ⟨m * 2 ^ p.toNat, by simp [above]⟩
      | true => exact ⟨0, by simp [plus rfl, above]⟩
  · cases whole

/-- A number without a fraction between zero and a count is a count. -/
theorem toNat?_of_between {n : ℕ} (hx : Integral x) (least : 0.0 ≤ x) (most : x ≤ Float.ofNat n)
    (small : n < 2 ^ 52) : ∃ k ≤ n, toNat? x = some k := by
  have whole : isWhole (Float.ofNat n) = true := isWhole_of_toNat? (toNat?_ofNat (by omega))
  have finite := isFinite_of_between hx.ordered least most (isWhole_iff.mp whole).2
  obtain ⟨k, same⟩ := toNat?_of_integral hx least finite
  refine ⟨k, ?_, same⟩
  by_contra more
  refine (le_iff_not_lt (ordered_ofNat n) hx.ordered).mp most ?_
  rcases Nat.lt_or_ge k (2 ^ 52) with counted | large
  · rw [← ofNat_of_toNat? same (by omega) counted]
    exact ofNat_lt_ofNat (by omega) counted
  · exact ofNat_lt_of_toNat? small same large

end VisualNovel.Number

/-! ## 4. Entries that are meant -/

namespace VisualNovel.Ordinal

open VisualNovel.Number (Integral)

variable {p : Ordinal}

theorem integral_ofNumber {x : Float} (h : Integral x) : Integral (ofNumber x).number :=
  Number.integral_congr (Number.unsigned_number_ofNumber x).symm h

theorem integral_prior (h : Integral p.number) : Integral p.prior.number := by
  cases p with
  | nth n =>
    cases n with
    | zero => exact Number.integral_of_isWhole (by decide)
    | succ n => exact Number.integral_ofNat n
  | stray x => exact integral_ofNumber (h.sub Number.integral_one (by decide))

/-- A number without a fraction that is moved into the range of some entries means one of them. -/
theorem clampTo_lands (h : Integral p.number) {count : Nat} (some : 0 < count)
    (short : count < bound) : ∃ k, k < count ∧ p.clampTo count = .nth k := by
  cases p with
  | nth n => exact ⟨min n (count - 1), by omega, if_neg (by omega)⟩
  | stray x =>
    obtain ⟨last, rfl⟩ : ∃ last, count = last + 1 := ⟨count - 1, by omega⟩
    have small : last < 2 ^ 52 := Nat.lt_of_succ_lt short
    have ends : Float.ofInt (Int.ofNat (last + 1) - 1) = Float.ofNat last := by
      have same : Int.ofNat (last + 1) - 1 = Int.ofNat last := by
        show ((last + 1 : Nat) : Int) - 1 = (last : Int)
        omega
      rw [same]
      rfl
    change Integral x at h
    obtain ⟨whole, least, most⟩ :=
      h.clamp Number.integral_zero (Number.integral_ofNat last) (Number.zero_le_ofNat small)
    obtain ⟨k, less, same⟩ := Number.toNat?_of_between whole least most small
    refine ⟨k, by omega, ?_⟩
    rw [clampTo, ends, ofNumber, same]
    exact if_pos (Nat.lt_of_le_of_lt less small)

end VisualNovel.Ordinal
