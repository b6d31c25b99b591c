import VisualNovel.Proofs.Number.Difference
import VisualNovel.Proofs.Number.Unsigned

/-!
Numbers that are moved into a range.

The sign of a zero is not seen by the order of numbers (`lt_congr`), so that a number that is moved into
a range is the same one up to that sign, whichever zeros the number and the ends of the range are
(`clamp_congr`).
-/

namespace VisualNovel.Number

open Float.Model (UnpackedFloat)

/-! ## 1. The order and the sign of zero -/

theorem lt_iff_unpack {x y : Float} :
    x < y ↔ UnpackedFloat.lt x.toModel.unpack y.toModel.unpack = true := by
  show (decide (x.toModel < y.toModel)) = true ↔ _
  rw [decide_eq_true_iff]
  rfl

theorem unpack_negative_zero : (-0.0 : Float).toModel.unpack = .zero .negative := by
  have bits : (-0.0 : Float) = .ofBits 0x8000000000000000 := by decide
  rw [bits]
  rfl

theorem unpack_of_toNat?_zero {x : Float} (zero : toNat? x = some 0) :
    ∃ s, x.toModel.unpack = .zero s := by
  rcases eq_zero_of_toNat? zero with rfl | rfl
  · exact ⟨.positive, unpack_zero⟩
  · exact ⟨.negative, unpack_negative_zero⟩

/-- Numbers that differ in the sign of a zero at most: one number, or two zeros. -/
theorem unsigned_cases {x y : Float} (same : unsigned x = unsigned y) :
    x = y ∨ ∃ s t, x.toModel.unpack = .zero s ∧ y.toModel.unpack = .zero t := by
  by_cases zero : toNat? y = some 0
  · right
    have other : toNat? x = some 0 := by rw [← toNat?_unsigned, same, toNat?_unsigned, zero]
    obtain ⟨s, hx⟩ := unpack_of_toNat?_zero other
    obtain ⟨t, hy⟩ := unpack_of_toNat?_zero zero
    exact ⟨s, t, hx, hy⟩
  · exact .inl (eq_of_unsigned same zero)

/-- Every number is on the same side of both zeros. -/
theorem lt_zero (v : UnpackedFloat) (s : UnpackedFloat.Sign) :
    UnpackedFloat.lt v (.zero s) = UnpackedFloat.lt v (.zero .positive) := by
  cases v with
  | infinity t => cases t <;> rfl
  | finite t => cases t <;> rfl
  | _ => rfl

section

variable {x x' y y' : Float} (hx : unsigned x = unsigned x') (hy : unsigned y = unsigned y')

include hx

theorem isNaN_congr : x.isNaN = x'.isNaN := by
  rcases unsigned_cases hx with rfl | ⟨s, t, form, form'⟩
  · rfl
  · show x.toModel.unpack.isNaN = x'.toModel.unpack.isNaN
    rw [form, form']
    rfl

include hy

theorem lt_congr : x < y ↔ x' < y' := by
  rw [lt_iff_unpack, lt_iff_unpack]
  have left : ∀ v, UnpackedFloat.lt x.toModel.unpack v = UnpackedFloat.lt x'.toModel.unpack v := by
    intro v
    rcases unsigned_cases hx with rfl | ⟨s, t, form, form'⟩
    · rfl
    · rw [form, form', zero_lt s, zero_lt t]
  have right : ∀ v, UnpackedFloat.lt v y.toModel.unpack = UnpackedFloat.lt v y'.toModel.unpack := by
    intro v
    rcases unsigned_cases hy with rfl | ⟨s, t, form, form'⟩
    · rfl
    · rw [form, form', lt_zero v s, lt_zero v t]
  rw [left, right]

theorem maximum_congr : unsigned (maximum x y) = unsigned (maximum x' y') := by
  simp only [maximum, isNaN_congr hx, isNaN_congr hy, lt_congr hx hy]
  split
  · exact hx
  · split
    · exact hy
    · split
      · exact hy
      · exact hx

theorem minimum_congr : unsigned (minimum x y) = unsigned (minimum x' y') := by
  simp only [minimum, isNaN_congr hx, isNaN_congr hy, lt_congr hy hx]
  split
  · exact hx
  · split
    · exact hy
    · split
      · exact hy
      · exact hx

end

/-- A number that is moved into a range, whichever zeros there are. -/
theorem clamp_congr {x x' low low' high high' : Float} (hx : unsigned x = unsigned x')
    (hlow : unsigned low = unsigned low') (hhigh : unsigned high = unsigned high') :
    unsigned (clamp x low high) = unsigned (clamp x' low' high') :=
  minimum_congr hhigh (maximum_congr hlow hx)

end VisualNovel.Number
