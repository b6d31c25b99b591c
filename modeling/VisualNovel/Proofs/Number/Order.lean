import VisualNovel.Proofs.Number.Comparison
import VisualNovel.Proofs.Number.Whole

/-!
Small counts are below great whole numbers.

A number that is whole and too great to be counted has a power of two that is not negative, while
that of a count is negative, and the order looks at the powers first.
-/

namespace VisualNovel.Number

open Float.Model (UnpackedFloat Format)
open Float.Model.UnpackedFloat

/-- The powers of two decide between two numbers that are not negative. -/
theorem lt_of_unpack {x y : Float} {m n : Nat} {e f : Int} {hm : 0 < m} {hn : 0 < n}
    (hx : x.toModel.unpack = .finite .positive m e hm)
    (hy : y.toModel.unpack = .finite .positive n f hn) (less : e < f) : x < y := by
  show (decide (x.toModel < y.toModel)) = true
  rw [decide_eq_true_iff]
  show UnpackedFloat.lt _ _ = true
  have powers : compare e f = .lt := Int.compare_eq_lt.mpr less
  rw [UnpackedFloat.lt, hx, hy]
  simp [UnpackedFloat.compare, powers]

/-- The parts of a finite number, from its bits. -/
theorem parts_eq_finite {x : Float} {negative : Bool} {m : Nat} {p : Int}
    (h : parts x = .finite negative m p) :
    negative = (x.toBits.toNat / 2 ^ 63 == 1) ∧ x.toBits.toNat / 2 ^ 52 % 2 ^ 11 ≠ 2047 ∧
      (x.toBits.toNat / 2 ^ 52 % 2 ^ 11 = 0 ∧ m = x.toBits.toNat % 2 ^ 52 ∧ p = -1074 ∨
        x.toBits.toNat / 2 ^ 52 % 2 ^ 11 ≠ 0 ∧ m = x.toBits.toNat % 2 ^ 52 + 2 ^ 52 ∧
          p = (x.toBits.toNat / 2 ^ 52 % 2 ^ 11 : Nat) - 1075) := by
  unfold parts at h
  simp only [Nat.pow_eq, beq_iff_eq] at h
  split at h
  · split at h <;> cases h
  · next finite =>
    split at h
    · next zero =>
      cases h
      exact ⟨rfl, finite, .inl ⟨zero, rfl, rfl⟩⟩
    · next normal =>
      cases h
      exact ⟨rfl, finite, .inr ⟨normal, rfl, rfl⟩⟩

/-- A number that is a natural number, from its parts. -/
theorem toNat?_eq_some {x : Float} {n : Nat} (h : toNat? x = some n) :
    ∃ negative m p, parts x = .finite negative m p ∧ (negative = true → n = 0) ∧
      (p < 0 → m = n * 2 ^ (-p).toNat) ∧ (0 ≤ p → n = m * 2 ^ p.toNat) := by
  unfold toNat? at h
  split at h
  · next negative m p form =>
    refine ⟨negative, m, p, form, ?_⟩
    simp only at h
    split at h
    · next size found =>
      obtain ⟨small, same⟩ := Option.ite_none_left_eq_some.mp h
      cases same
      refine ⟨fun minus => ?_, fun below => ?_, fun above => ?_⟩
      · simpa [minus] using small
      · rw [if_neg (by omega)] at found
        obtain ⟨whole, same⟩ := Option.ite_none_right_eq_some.mp found
        obtain rfl := Option.some.inj same
        exact (Nat.div_mul_cancel (Nat.dvd_of_mod_eq_zero (beq_iff_eq.mp whole))).symm
      · rw [if_pos above] at found
        exact (Option.some.inj found).symm
    · cases h
  · cases h

/-- A whole number that is too great to be counted: its sign and its power of two. -/
theorem bits_of_toNat? {x : Float} {n : Nat} (h : toNat? x = some n) (large : 2 ^ 52 ≤ n) :
    x.toBits.toNat / 2 ^ 63 = 0 ∧ 1075 ≤ x.toBits.toNat / 2 ^ 52 % 2 ^ 11 ∧
      x.toBits.toNat / 2 ^ 52 % 2 ^ 11 ≠ 2047 := by
  obtain ⟨negative, m, p, form, sign, size, -⟩ := toNat?_eq_some h
  obtain ⟨minus, finite, fields⟩ := parts_eq_finite form
  have word : x.toBits.toNat < 2 ^ 64 := x.toBits.toNat_lt
  have positive : x.toBits.toNat / 2 ^ 63 ≠ 1 := by
    intro one
    have zero := sign (by rw [minus, one]; rfl)
    omega
  -- With a negative power the number would be at most half of its significand.
  have power : 0 ≤ p := by
    rcases Int.lt_or_le p 0 with below | above
    · have half : 2 ≤ 2 ^ (-p).toNat := by
        calc 2 = 2 ^ 1 := rfl
          _ ≤ 2 ^ (-p).toNat := Nat.pow_le_pow_right (by decide) (by omega)
      have least : n * 2 ≤ m := size below ▸ Nat.mul_le_mul_left n half
      omega
    · exact above
  refine ⟨by omega, ?_, finite⟩
  omega

/-- A whole number that is too great to be counted, taken apart. -/
theorem unpack_of_toNat? {x : Float} {n : Nat} (h : toNat? x = some n) (large : 2 ^ 52 ≤ n) :
    ∃ m e pos, 2 ^ 52 ≤ m ∧ 0 ≤ e ∧ x.toModel.unpack = .finite .positive m e pos := by
  obtain ⟨sign, least, finite⟩ := bits_of_toNat? h large
  have exponent := toNat_unpackExponent x
  simp only [Nat.pow_eq] at exponent
  have below : @unpackExponent Format.binary64 x.toModel.toBits.toBitVec ≠ -1#11 := by
    intro same
    rw [same] at exponent
    exact finite exponent.symm
  have above : @unpackExponent Format.binary64 x.toModel.toBits.toBitVec ≠ 0#11 := by
    intro same
    rw [same] at exponent
    have zero : (0#11).toNat = 0 := rfl
    omega
  have plus : Sign.ofBitVec (@unpackSign Format.binary64 x.toModel.toBits.toBitVec) = .positive := by
    have zero : @unpackSign Format.binary64 x.toModel.toBits.toBitVec = 0#1 := by
      apply BitVec.eq_of_toNat_eq
      rw [unpackSign, BitVec.toNat_cast, BitVec.extractLsb_toNat, Nat.shiftRight_eq_div_pow]
      change x.toBits.toNat / 2 ^ 63 % _ = 0
      rw [sign]
      rfl
    rw [zero]
    rfl
  have wide : 2 ^ 52 ≤ (1#1 ++ @unpackMantissa Format.binary64 x.toModel.toBits.toBitVec).toNat := by
    rw [BitVec.toNat_append, ← Nat.shiftLeft_add_eq_or_of_lt (BitVec.isLt _), Nat.shiftLeft_eq]
    exact Nat.le_add_right _ _
  have bias : Format.binary64.exponentBias = 1023 := rfl
  refine ⟨_, ((x.toBits.toNat / 2 ^ 52 % 2 ^ 11 : Nat) : Int) - 1075,
    Nat.lt_of_lt_of_le (Nat.two_pow_pos 52) wide, wide, by omega, ?_⟩
  change UnpackedFloat.unpack .binary64 _ = _
  simp only [UnpackedFloat.unpack, if_neg below, if_neg above, plus, exponent, bias]
  rfl

/-- A count, taken apart. -/
theorem unpack_ofNat {k s : Nat} (pos : 0 < k) (width : k.log2 + s = 52) :
    (Float.ofNat k).toModel.unpack =
      .finite .positive (k * 2 ^ s) (-s) (Nat.mul_pos pos (Nat.two_pow_pos s)) := by
  have wide : (k * 2 ^ s).log2 = 52 := by rw [log2_mul_two_pow pos, width]
  have biased : -(s : Int) + 1075 = (1075 - s : Nat) := by omega
  rw [ofNat_eq_pack pos width]
  exact unpack_pack _ wide biased (by omega) (by omega)

/-- A count is below every whole number that is too great to be counted. -/
theorem ofNat_lt_of_toNat? {k n : Nat} {x : Float} (small : k < 2 ^ 52)
    (h : toNat? x = some n) (large : 2 ^ 52 ≤ n) : Float.ofNat k < x := by
  obtain ⟨m, e, pos, -, power, form⟩ := unpack_of_toNat? h large
  rcases Nat.eq_zero_or_pos k with rfl | some
  · have zero : (Float.ofNat 0).toModel.unpack = .zero .positive := rfl
    show (decide ((Float.ofNat 0).toModel < x.toModel)) = true
    rw [decide_eq_true_iff]
    show UnpackedFloat.lt _ _ = true
    rw [UnpackedFloat.lt, form, zero]
    rfl
  · have less : k.log2 < 52 := (Nat.log2_lt (Nat.ne_of_gt some)).mpr small
    obtain ⟨s, width⟩ : ∃ s, k.log2 + s = 52 := ⟨52 - k.log2, by omega⟩
    exact lt_of_unpack (unpack_ofNat some width) form (by omega)

end VisualNovel.Number
