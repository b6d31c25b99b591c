import VisualNovel.Proofs.Number.Comparison
import VisualNovel.Proofs.Number.Whole

/-!
Differences from zero.

The difference of zero and a number is the number with the other sign: nothing is rounded, and a number
that bits can hold comes back from its bits with any sign (`unpack_pack_of_fits`). So a number that is
taken from zero twice compares as before (`zero_sub_sub_lt`).
-/

namespace VisualNovel.Number

open Float.Model
open Float.Model.UnpackedFloat

/-! ## 1. Numbers that bits can hold -/

/-- The significand and the power of a finite number: without the leading place and with the least
power, or of the full width. -/
def Fits (m : Nat) (e : Int) : Prop :=
  m < 2 ^ 52 ∧ e = -1074 ∨ m.log2 = 52 ∧ -1074 ≤ e ∧ e < 972

theorem fits_of_unpack {b : BitVec 64} {s : Sign} {m : Nat} {e : Int} {pos : 0 < m}
    (h : UnpackedFloat.unpack .binary64 b = .finite s m e pos) : Fits m e := by
  have bias : Format.binary64.exponentBias = 1023 := rfl
  have narrow : (@unpackMantissa .binary64 b).toNat < 2 ^ 52 := BitVec.isLt _
  have short : (@unpackExponent .binary64 b).toNat < 2 ^ 11 := BitVec.isLt _
  simp only [UnpackedFloat.unpack, bias] at h
  split at h
  · split at h <;> cases h
  · next finite =>
    split at h
    · next zero =>
      split at h
      · cases h
      · cases h
        rw [zero]
        exact .inl ⟨narrow, rfl⟩
    · next normal =>
      cases h
      have below : (@unpackExponent .binary64 b).toNat ≠ 2047 :=
        fun same => finite (BitVec.eq_of_toNat_eq same)
      have above : (@unpackExponent .binary64 b).toNat ≠ 0 :=
        fun same => normal (BitVec.eq_of_toNat_eq same)
      have full : (1#1 ++ @unpackMantissa .binary64 b).toNat =
          2 ^ 52 + (@unpackMantissa .binary64 b).toNat := by
        rw [BitVec.toNat_append, ← Nat.shiftLeft_add_eq_or_of_lt (BitVec.isLt _), Nat.shiftLeft_eq]
        rfl
      refine .inr ⟨?_, by omega, by omega⟩
      rw [full, Nat.log2_eq_iff (by omega)]
      exact ⟨by omega, by omega⟩

/-- A number without the leading place is packed with the exponent zero. -/
theorem pack_narrow {s : Sign} {m : Nat} (pos : 0 < m) (narrow : m < 2 ^ 52) :
    UnpackedFloat.pack .binary64 (.finite s m (-1074) pos) =
      packComponents .binary64 s 0#11 (BitVec.ofNat 52 m) := by
  have short : m.log2 < 52 := (Nat.log2_lt (Nat.ne_of_gt pos)).mpr narrow
  have part : ¬ m.log2 + 1 = Format.binary64.mantissaBits := by
    change ¬ m.log2 + 1 = 53
    omega
  have inside : ¬ 2 ^ 11 ≤ (-1074 + (1023 : Nat) + (52 : Nat) : Int).toNat + 1 := by decide
  have bias : Format.binary64.exponentBias = 1023 := rfl
  simp only [UnpackedFloat.pack, bias]
  rw [if_neg inside, if_neg part]

/-- A number that fits comes back from its bits, with any sign. -/
theorem unpack_pack_of_fits {m : Nat} {e : Int} (fits : Fits m e) (pos : 0 < m) (s : Sign) :
    UnpackedFloat.unpack .binary64 (UnpackedFloat.pack .binary64 (.finite s m e pos)) =
      .finite s m e pos := by
  rcases fits with ⟨narrow, rfl⟩ | ⟨wide, least, most⟩
  · have field : (BitVec.ofNat 52 m).toNat = m := by
      rw [BitVec.toNat_ofNat, Nat.mod_eq_of_lt narrow]
    have some : BitVec.ofNat 52 m ≠ 0#52 := by
      intro same
      have value : m = 0 := field ▸ congrArg BitVec.toNat same
      omega
    have finite : ¬ (0#11 = -1#11) := by decide
    have bias : Format.binary64.exponentBias = 1023 := rfl
    rw [pack_narrow pos narrow]
    simp only [UnpackedFloat.unpack, unpackMantissa_packComponents, unpackExponent_packComponents,
      unpackSign_packComponents, ofBitVec_toBitVec, if_neg finite, if_true,
      dif_neg some, field, bias]
    rfl
  · have biased : e + 1075 = ((e + 1075).toNat : Int) := by omega
    exact unpack_pack pos wide biased (by omega) (by omega)

/-! ## 2. Differences from zero -/

theorem unpack_zero : (0.0 : Float).toModel.unpack = .zero .positive := by
  have bits : (0.0 : Float) = .ofBits 0 := by decide
  rw [bits]
  rfl

/-- What a difference from zero is made from. -/
theorem zero_sub (x : Float) : (0.0 - x : Float).toModel =
    Float.Model.pack (UnpackedFloat.sub .binary64 (.zero .positive) x.toModel.unpack) := by
  rw [← unpack_zero]
  rfl

/-- A finite number changes its sign. -/
theorem unpack_zero_sub {x : Float} {s : Sign} {m : Nat} {e : Int} {pos : 0 < m}
    (h : x.toModel.unpack = .finite s m e pos) :
    (0.0 - x : Float).toModel.unpack = .finite (-s) m e pos := by
  rw [zero_sub, h]
  exact unpack_pack_of_fits (fits_of_unpack h) pos (-s)

theorem unpack_zero_sub_infinity {x : Float} {s : Sign} (h : x.toModel.unpack = .infinity s) :
    (0.0 - x : Float).toModel.unpack = .infinity (-s) := by
  rw [zero_sub, h]
  cases s <;> rfl

theorem unpack_zero_sub_zero {x : Float} {s : Sign} (h : x.toModel.unpack = .zero s) :
    (0.0 - x : Float).toModel.unpack = .zero .positive := by
  rw [zero_sub, h]
  cases s <;> rfl

/-- Both zeros compare alike. -/
theorem zero_lt (s : Sign) (v : UnpackedFloat) :
    UnpackedFloat.lt (.zero s) v = UnpackedFloat.lt (.zero .positive) v := by
  cases v with
  | infinity t => cases t <;> rfl
  | finite t => cases t <;> rfl
  | _ => rfl

/-- A number that is taken from zero twice is less than another one if it was before. -/
theorem zero_sub_sub_lt {x y : Float} (h : x < y) : 0.0 - (0.0 - x) < y := by
  have less : UnpackedFloat.lt x.toModel.unpack y.toModel.unpack = true := of_decide_eq_true h
  have twice : ∀ s : Sign, -(-s) = s := by rintro ⟨⟩ <;> rfl
  refine decide_eq_true (?_ : UnpackedFloat.lt _ _ = true)
  cases form : x.toModel.unpack with
  | notANumber => exact absurd form (ordered_of_lt h).1
  | infinity s =>
    rw [unpack_zero_sub_infinity (unpack_zero_sub_infinity form), twice, ← form]
    exact less
  | zero s =>
    rw [unpack_zero_sub_zero (unpack_zero_sub_zero form), ← zero_lt s, ← form]
    exact less
  | finite s m e pos =>
    rw [unpack_zero_sub (unpack_zero_sub form), twice, ← form]
    exact less

end VisualNovel.Number
