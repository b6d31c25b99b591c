import VisualNovel.Number.Ordinal
import VisualNovel.Proofs.Number.Order

/-!
Numbers up to the sign of zero.

JSON has one zero. `unsigned` takes the sign of a zero away and leaves all other numbers alone. A
small whole number is the only one of its value up to that sign, so that an ordinal stands for the
number it was made from (`unsigned_number_ofNumber`).
-/

namespace VisualNovel.Number

/-! ## 1. Numbers of the same parts -/

theorem eq_of_toBits {x y : Float} (same : x.toBits.toNat = y.toBits.toNat) : x = y := by
  obtain ⟨⟨bits, valid⟩⟩ := x
  obtain ⟨⟨bits', valid'⟩⟩ := y
  have : bits = bits' := UInt64.toNat_inj.mp same
  subst this
  rfl

/-- A finite number is known by its parts. -/
theorem eq_of_parts {x y : Float} {negative : Bool} {m : Nat} {p : Int}
    (hx : parts x = .finite negative m p) (hy : parts y = .finite negative m p) : x = y := by
  obtain ⟨sign, -, fields⟩ := parts_eq_finite hx
  obtain ⟨sign', -, fields'⟩ := parts_eq_finite hy
  have word := x.toBits.toNat_lt
  have word' := y.toBits.toNat_lt
  have top : x.toBits.toNat / 2 ^ 63 = y.toBits.toNat / 2 ^ 63 := by
    rw [sign, Bool.eq_iff_iff, beq_iff_eq, beq_iff_eq] at sign'
    omega
  have split : ∀ bits : Nat, bits / 2 ^ 63 = bits / 2 ^ 52 / 2 ^ 11 := fun bits => by
    rw [Nat.div_div_eq_div_mul, ← Nat.pow_add]
  rw [split, split] at top
  apply eq_of_toBits
  omega

/-- A small whole number is that of its count. -/
theorem ofNat_of_toNat? {x : Float} {n : Nat} (h : toNat? x = some n) (pos : 0 < n)
    (small : n < 2 ^ 52) : Float.ofNat n = x := by
  obtain ⟨negative, m, p, form, sign, below, above⟩ := toNat?_eq_some h
  obtain ⟨-, -, fields⟩ := parts_eq_finite form
  have plus : negative = false := by
    cases negative with
    | false => rfl
    | true => exact absurd (sign rfl) (Nat.ne_of_gt pos)
  subst plus
  have fraction : x.toBits.toNat % 2 ^ 52 < 2 ^ 52 := Nat.mod_lt _ (by decide)
  -- Without its leading digit a number is below one, and without a fraction it is great.
  rcases fields with ⟨-, size, power⟩ | ⟨-, size, power⟩
  · have tiny := below (by omega)
    have scale : 2 ^ 52 ≤ 2 ^ (-p).toNat := Nat.pow_le_pow_right (by decide) (by omega)
    have most : 2 ^ (-p).toNat ≤ n * 2 ^ (-p).toNat := Nat.le_mul_of_pos_left _ pos
    omega
  · have negative : p < 0 := by
      by_contra whole
      have great := above (by omega)
      have most : m ≤ m * 2 ^ p.toNat := Nat.le_mul_of_pos_right m (Nat.two_pow_pos _)
      omega
    have value := below negative
    have wide : m.log2 = 52 := (Nat.log2_eq_iff (by omega)).mpr ⟨by omega, by omega⟩
    have width : n.log2 + (-p).toNat = 52 := by rw [← log2_mul_two_pow pos, ← value, wide]
    refine eq_of_parts (parts_ofNat pos width) ?_
    rw [form, ← value]
    congr 1
    omega

/-! ## 2. The sign of zero -/

/-- The number, with a zero always positive. -/
def unsigned (x : Float) : Float := if toNat? x = some 0 then 0.0 else x

theorem toNat?_unsigned (x : Float) : toNat? (unsigned x) = toNat? x := by
  unfold unsigned
  split
  · next zero =>
    rw [zero]
    decide +kernel
  · rfl

theorem isFinite_unsigned (x : Float) : isFinite (unsigned x) = isFinite x := by
  unfold unsigned
  split
  · next zero =>
    obtain ⟨_, _, _, form, -⟩ := toNat?_eq_some zero
    have finite : isFinite x = true := by rw [isFinite, form]
    rw [finite]
    decide
  · rfl

/-- Where there is no zero there is no difference. -/
theorem eq_of_unsigned {x y : Float} (same : unsigned x = unsigned y) (other : toNat? y ≠ some 0) :
    x = y := by
  have differs : toNat? x ≠ some 0 := by rwa [← toNat?_unsigned, same, toNat?_unsigned]
  rwa [unsigned, unsigned, if_neg differs, if_neg other] at same

/-- There are two zeros. -/
theorem eq_zero_of_toNat? {x : Float} (zero : toNat? x = some 0) : x = 0.0 ∨ x = -0.0 := by
  obtain ⟨negative, m, p, form, -, below, above⟩ := toNat?_eq_some zero
  obtain ⟨-, -, fields⟩ := parts_eq_finite form
  have nothing : m = 0 := by
    rcases Int.lt_or_le p 0 with less | more
    · simpa using below less
    · simpa using (above more).symm
  obtain ⟨empty, fraction, rfl⟩ : _ ∧ _ ∧ _ := fields.resolve_right (by omega)
  subst nothing
  cases negative with
  | false => exact .inl (eq_of_parts form (by decide))
  | true => exact .inr (eq_of_parts form (by decide))

/-- A positive number is no zero. -/
theorem toNat?_ne_zero {x : Float} (pos : 0.0 < x) : toNat? x ≠ some 0 := by
  intro zero
  rcases eq_zero_of_toNat? zero with rfl | rfl
  · exact absurd pos (by decide)
  · exact absurd pos (by decide)

/-- An ordinal stands for the number it was made from. -/
theorem unsigned_number_ofNumber (x : Float) : unsigned (Ordinal.ofNumber x).number = unsigned x := by
  unfold Ordinal.ofNumber
  split
  · next n whole =>
    split
    · next small =>
      rcases Nat.eq_zero_or_pos n with rfl | pos
      · have zero : toNat? (Float.ofNat 0) = some 0 := toNat?_ofNat (by decide)
        rw [unsigned, unsigned, if_pos whole, Ordinal.number, if_pos zero]
      · rw [Ordinal.number, ofNat_of_toNat? whole pos small]
    · rfl
  · rfl

end VisualNovel.Number
