import VisualNovel.Proofs.Number.Order

/-!
Great numbers are whole.

From `2 ^ 52` on the last place of a number counts one or more, so that a result of this size is a
whole number however it is rounded, unless it is too great to be finite.
-/

namespace VisualNovel.Number

open Float.Model
open Float.Model.UnpackedFloat

/-! ## 1. Rounding -/

theorem mantissa_shiftRight (n : Nat) (m : ExtendedMantissa) :
    (m >>> n).mantissa = m.mantissa / 2 ^ n := by
  change (n.repeat ExtendedMantissa.shiftRightOne m).mantissa = _
  induction n generalizing m with
  | zero => simp [Nat.repeat]
  | succ n ih =>
    rw [Nat.repeat, ExtendedMantissa.shiftRightOne, ih, Nat.div_div_eq_div_mul, ← Nat.pow_succ]

/-- Rounding adds one at most. -/
theorem roundedMantissa_le (m : ExtendedMantissa) :
    m.mantissa ≤ m.roundedMantissa ∧ m.roundedMantissa ≤ m.mantissa + 1 := by
  obtain ⟨mantissa, roundBit, stickyBit⟩ := m
  cases roundBit <;> cases stickyBit <;>
    simp only [ExtendedMantissa.roundedMantissa, ExtendedMantissa.accuracy,
      Accuracy.roundToNearestEven] <;> omega

/-- A significand of the full width or wider, shifted to the full width. -/
theorem shiftToTargetExponent_wide {m : Nat} {e : Int} (wide : 52 ≤ m.log2)
    (large : 52 ≤ m.log2 + e) :
    (shiftToTargetExponent .binary64 m e .exact).1.mantissa = m / 2 ^ (m.log2 - 52) ∧
      (shiftToTargetExponent .binary64 m e .exact).2 = m.log2 + e - 52 := by
  have amount : (Format.binary64.targetExponent (totalExponent m e) - e).toNat = m.log2 - 52 := by
    simp only [Format.targetExponent, totalExponent, Format.minExponent, Format.mantissaBits]
    omega
  simp only [shiftToTargetExponent, shiftToExponent, amount, mantissa_shiftRight]
  exact ⟨rfl, by omega⟩

/-- What is rounded to a size from `2 ^ 52` on has the full width and no power below one. -/
theorem roundWithAccuracy_great {m : Nat} {e : Int} (wide : 52 ≤ m.log2)
    (large : 52 ≤ m.log2 + e) (s : Sign) :
    ∃ k f pos, roundWithAccuracy .binary64 s m e .exact = .finite s k f pos ∧ k.log2 = 52 ∧
      0 ≤ f := by
  have pos : m ≠ 0 := by
    rintro rfl
    simp at wide
  obtain ⟨mantissa, exponent⟩ := shiftToTargetExponent_wide wide large
  -- Cut to the full width, and perhaps one more by rounding.
  have least : 2 ^ 52 ≤ m / 2 ^ (m.log2 - 52) := by
    rw [Nat.le_div_iff_mul_le (Nat.two_pow_pos _), ← Nat.pow_add]
    exact (Nat.pow_le_pow_right (by decide) (by omega)).trans (Nat.log2_self_le pos)
  have most : m / 2 ^ (m.log2 - 52) < 2 ^ 53 := by
    rw [Nat.div_lt_iff_lt_mul (Nat.two_pow_pos _), ← Nat.pow_add]
    exact Nat.lt_log2_self.trans_le (Nat.pow_le_pow_right (by decide) (by omega))
  obtain ⟨up, down⟩ :=
    roundedMantissa_le (shiftToTargetExponent .binary64 m e .exact).1
  rw [mantissa] at up down
  generalize hr : (shiftToTargetExponent .binary64 m e .exact).1.roundedMantissa = r at up down
  have full : r.log2 = 52 ∨ r = 2 ^ 53 := by
    rcases Nat.lt_or_ge r (2 ^ 53) with less | more
    · exact .inl ((Nat.log2_eq_iff (by omega)).mpr ⟨by omega, less⟩)
    · exact .inr (by omega)
  have log : 52 ≤ r.log2 := by
    rcases full with same | rfl
    · omega
    · decide
  obtain ⟨mantissa', exponent'⟩ :=
    shiftToTargetExponent_wide (e := m.log2 + e - 52) log (by omega)
  have again : (r / 2 ^ (r.log2 - 52)).log2 = 52 := by
    rcases full with same | rfl
    · simp [same]
    · decide
  have found : r / 2 ^ (r.log2 - 52) ≠ 0 := by
    intro zero
    simp [zero] at again
  simp only [roundWithAccuracy, hr, exponent, mantissa', exponent']
  rw [dif_neg found]
  exact ⟨_, _, Nat.pos_of_ne_zero found, rfl, again, by omega⟩

/-- A significand that is wide enough is not widened before it is rounded. -/
theorem round_great {m : Nat} {e : Int} (wide : 52 ≤ m.log2) (large : 52 ≤ m.log2 + e) (s : Sign) :
    ∃ k f pos, UnpackedFloat.round .binary64 s m e = .finite s k f pos ∧ k.log2 = 52 ∧ 0 ≤ f := by
  have kept : (e - Format.binary64.targetExponent (totalExponent m e)).toNat = 0 := by
    simp only [Format.targetExponent, totalExponent, Format.minExponent, Format.mantissaBits]
    omega
  simp only [UnpackedFloat.round, decreaseExponent, kept, Nat.shiftLeft_zero, Int.natCast_zero,
    Int.sub_zero]
  exact roundWithAccuracy_great wide large s

/-- The sum of two numbers that are not negative, before it is rounded. -/
theorem add_positive {m n k : Nat} {e : Int} (hm : 0 < m) (hn : 0 < n) :
    UnpackedFloat.add .binary64 (.finite .positive m (e + k) hm) (.finite .positive n e hn) =
      UnpackedFloat.round .binary64 .positive (m * 2 ^ k + n) e := by
  have least : min (e + k) e = e := by omega
  have first : (e + k - e).toNat = k := by omega
  have second : (e - e).toNat = 0 := by omega
  have sign : compare ((m * 2 ^ k : Nat) + (n : Nat) : Int) 0 = .gt := by
    rw [Int.compare_eq_gt]
    omega
  have size : ((m * 2 ^ k : Nat) + (n : Nat) : Int).toNat = m * 2 ^ k + n := by omega
  simp only [UnpackedFloat.add, decreaseExponent, least, first, second, Nat.shiftLeft_eq,
    Nat.pow_zero, Nat.mul_one, Sign.apply, UnpackedFloat.normalize, sign, size]

/-! ## 2. Great whole numbers -/

/-- A whole number from `2 ^ 52` on, if it is finite at all. -/
def Great (x : Float) : Prop := isFinite x = true → ∃ n, toNat? x = some n ∧ 2 ^ 52 ≤ n

/-- A significand of the full width with no power below one is packed as a whole number. -/
theorem great_pack {m : Nat} (pos : 0 < m) (wide : m.log2 = 52) {e : Int} (whole : 0 ≤ e) :
    Great (.ofModel (Float.Model.pack (.finite .positive m e pos))) := by
  obtain ⟨least, -⟩ := significand_bounds pos wide
  intro finite
  rcases Int.lt_or_le (e + 1075) 2047 with inside | outside
  · have biased : e + 1075 = ((e + 1075).toNat : Nat) := by omega
    refine ⟨m * 2 ^ e.toNat, ?_, ?_⟩
    · rw [toNat?, parts_pack pos wide biased (by omega) (by omega) .positive]
      simp [whole, Sign.toBitVec]
    · exact least.trans (Nat.le_mul_of_pos_right m (Nat.two_pow_pos _))
  · have infinite : Float.Model.pack (.finite .positive m e pos) =
        Float.Model.pack (.infinity .positive) := by
      have above : 2 ^ 11 ≤ (e + 1023 + 52).toNat + 1 := by omega
      have packed : UnpackedFloat.pack .binary64 (.finite .positive m e pos) =
          packedInfinity .binary64 .positive := if_pos above
      unfold Float.Model.pack
      simp only [packed]
      rfl
    rw [infinite] at finite
    exact absurd finite (by decide)

theorem great_ofNat {n : Nat} (large : 2 ^ 52 ≤ n) : Great (Float.ofNat n) := by
  rcases Nat.lt_or_ge n (2 ^ 53) with exact' | rounded
  · exact fun _ => ⟨n, toNat?_ofNat exact', large⟩
  · have pos : n ≠ 0 := by omega
    have wide : 53 ≤ n.log2 := (Nat.le_log2 pos).mpr rounded
    have log : (n <<< 53 * 10 ^ 0).log2 = n.log2 + 53 := by
      rw [Nat.pow_zero, Nat.mul_one, Nat.shiftLeft_eq, log2_mul_two_pow (by omega)]
    obtain ⟨k, f, some, same, full, whole⟩ :=
      roundWithAccuracy_great (m := n <<< 53 * 10 ^ 0) (e := -53 + 0) (by omega) (by omega) .positive
    have form : Float.ofNat n = .ofModel (Float.Model.pack (.finite .positive k f some)) := by
      change Float.ofScientific n false 0 = _
      rw [Float.ofScientific, dif_neg (by omega)]
      have plain : UnpackedFloat.ofScientific .binary64 n 0 = .finite .positive k f some := by
        have above : ¬ (0 : Int) < -(2 ^ 11 + (n.log2 : Int)) := by omega
        rw [UnpackedFloat.ofScientific, dif_neg pos, if_neg (by decide), if_neg above,
          if_pos (Int.le_refl 0), UnpackedFloat.mul, ← same]
        rfl
      exact congrArg (fun u => Float.ofModel (Float.Model.pack u)) plain
    rw [form]
    exact great_pack some full whole

/-- What is not finite: the error value or an infinity. -/
theorem unpack_of_not_finite {x : Float} (h : isFinite x = false) :
    x.toModel.unpack = .notANumber ∨ ∃ s, x.toModel.unpack = .infinity s := by
  have full : x.toBits.toNat / Nat.pow 2 52 % Nat.pow 2 11 = 2047 := by
    by_contra other
    have field : (x.toBits.toNat / Nat.pow 2 52 % Nat.pow 2 11 == 2047) = false :=
      beq_false_of_ne other
    simp only [isFinite, parts, field] at h
    by_cases small : x.toBits.toNat / Nat.pow 2 52 % Nat.pow 2 11 = 0 <;> simp [small] at h
  have exponent : @unpackExponent Format.binary64 x.toModel.toBits.toBitVec = -1#11 := by
    apply BitVec.eq_of_toNat_eq
    rw [toNat_unpackExponent, full]
    rfl
  change UnpackedFloat.unpack .binary64 _ = _ ∨ ∃ s, UnpackedFloat.unpack .binary64 _ = _
  simp only [UnpackedFloat.unpack, if_pos exponent]
  split
  · exact .inr ⟨_, rfl⟩
  · exact .inl rfl

/-- The number after a great one is great. -/
theorem Great.add_one {x : Float} (h : Great x) : Great (x + 1.0) := by
  have sum : x + 1.0 = .ofModel (Float.Model.pack (UnpackedFloat.add .binary64 x.toModel.unpack
      (.finite .positive (2 ^ 52) (-52) (Nat.two_pow_pos 52)))) := by
    have one : (1.0 : Float) = .ofBits 0x3FF0000000000000 := by decide
    rw [← unpack_one, ← one]
    rfl
  cases finite : isFinite x with
  | false =>
    rw [sum]
    rcases unpack_of_not_finite finite with same | ⟨s, same⟩
    · rw [same]
      exact fun finite => absurd finite (by decide)
    · rw [same]
      cases s <;> exact fun finite => absurd finite (by decide)
  | true =>
    obtain ⟨n, whole, large⟩ := h finite
    obtain ⟨m, e, pos, wide, power, form⟩ := unpack_of_toNat? whole large
    obtain ⟨k, rfl⟩ := Int.eq_ofNat_of_zero_le power
    have log : 104 ≤ (m * 2 ^ (k + 52) + 2 ^ 52).log2 := by
      rw [Nat.le_log2 (by omega)]
      calc 2 ^ 104 = 2 ^ 52 * 2 ^ 52 := by decide
        _ ≤ m * 2 ^ (k + 52) := Nat.mul_le_mul wide (Nat.pow_le_pow_right (by decide) (by omega))
        _ ≤ m * 2 ^ (k + 52) + 2 ^ 52 := Nat.le_add_right _ _
    obtain ⟨l, f, pos', same, full, above⟩ :=
      round_great (m := m * 2 ^ (k + 52) + 2 ^ 52) (e := -52) (by omega) (by omega) .positive
    have shifted : -52 + ((k + 52 : Nat) : Int) = k := by omega
    have added := (add_positive (k := k + 52) pos (Nat.two_pow_pos 52)).trans same
    rw [shifted] at added
    rw [sum, form, added]
    exact great_pack pos' full above

end VisualNovel.Number
