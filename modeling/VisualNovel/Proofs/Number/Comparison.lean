import Mathlib
import VisualNovel.Number.Numeral

/-!
Comparison of numbers that are not the error value.

The order of numbers is decided by `UnpackedFloat.compare`, which gives no answer as soon as one
side is the error value. Between all other numbers it is a total comparison, infinities included,
so that `a < b` fails exactly where `b ≤ a` holds (`decide_le_eq_not_lt`). Which numbers that are:
finite ones (`ordered_of_isFinite`) and everything that a numeral spells (`ordered_ofNumeral`).

The second fact follows the arithmetic of `Float.ofScientific`. A product or quotient with a finite
number other than zero is never the error value, and packing a number keeps it from becoming one.
-/

namespace VisualNovel.Number

open Float.Model (UnpackedFloat Format)
open Float.Model.UnpackedFloat

/-- The number is not the error value, so that it has a place in the order. -/
def Ordered (x : Float) : Prop := x.toModel.unpack ≠ .notANumber

instance (x : Float) : Decidable (Ordered x) :=
  match h : x.toModel.unpack with
  | .notANumber => isFalse (fun n => n h)
  | .infinity _ | .zero _ | .finite .. => isTrue (by simp [Ordered, h])

/-! ## 1. The order -/

/-- Comparison the other way round gives the opposite answer. -/
theorem compare_swap (u v : UnpackedFloat) :
    v.compare u = (u.compare v).map Ordering.swap := by
  cases u with
  | notANumber => cases v <;> rfl
  | infinity s =>
    cases v with
    | infinity t => cases s <;> cases t <;> rfl
    | _ => cases s <;> rfl
  | zero s =>
    cases v with
    | infinity t => cases t <;> rfl
    | finite t m e h => cases t <;> rfl
    | _ => rfl
  | finite s m e h =>
    cases v with
    | notANumber => cases s <;> rfl
    | infinity t => cases s <;> cases t <;> rfl
    | zero t => cases s <;> rfl
    | finite t n f k =>
      have hm : compare n m = (compare m n).swap := (Nat.compare_swap m n).symm
      have he : compare f e = (compare e f).swap := (Int.compare_swap e f).symm
      cases s <;> cases t <;>
        simp [UnpackedFloat.compare, hm, he, Ordering.swap_then]

/-- Of two numbers that are not the error value one can say how they compare. -/
theorem compare_isSome {u v : UnpackedFloat} (hu : u ≠ .notANumber) (hv : v ≠ .notANumber) :
    ∃ o, u.compare v = some o := by
  cases u with
  | notANumber => exact absurd rfl hu
  | infinity s =>
    cases v with
    | notANumber => exact absurd rfl hv
    | _ => cases s <;> exact ⟨_, rfl⟩
  | zero s =>
    cases v with
    | notANumber => exact absurd rfl hv
    | infinity t => cases t <;> exact ⟨_, rfl⟩
    | finite t n f k => cases t <;> exact ⟨_, rfl⟩
    | zero t => exact ⟨_, rfl⟩
  | finite s m e h =>
    cases v with
    | notANumber => exact absurd rfl hv
    | infinity t => cases s <;> cases t <;> exact ⟨_, rfl⟩
    | zero t => cases s <;> exact ⟨_, rfl⟩
    | finite t n f k => cases s <;> cases t <;> exact ⟨_, rfl⟩

/-- Where `a < b` fails, `b ≤ a` holds, and the other way round. -/
theorem le_iff_not_lt {a b : Float} (ha : Ordered a) (hb : Ordered b) : b ≤ a ↔ ¬ a < b := by
  obtain ⟨o, ho⟩ := compare_isSome ha hb
  have hs : b.toModel.unpack.compare a.toModel.unpack = some o.swap := by
    rw [compare_swap, ho]; rfl
  have hlt : a < b ↔ o = .lt := by
    show (decide (a.toModel < b.toModel)) = true ↔ _
    rw [decide_eq_true_iff]
    show UnpackedFloat.lt _ _ = true ↔ _
    simp [UnpackedFloat.lt, ho]
  have hle : b ≤ a ↔ o.swap.isLE = true := by
    show (decide (b.toModel ≤ a.toModel)) = true ↔ _
    rw [decide_eq_true_iff]
    show UnpackedFloat.le _ _ = true ↔ _
    simp [UnpackedFloat.le, hs]
  rw [hlt, hle]
  cases o <;> decide

/-- The error value is neither less nor greater. -/
theorem ordered_of_lt {a b : Float} (h : a < b) : Ordered a ∧ Ordered b := by
  have less : UnpackedFloat.lt a.toModel.unpack b.toModel.unpack = true := of_decide_eq_true h
  constructor
  · intro none
    rw [none, UnpackedFloat.lt] at less
    cases less
  · intro none
    rw [none, UnpackedFloat.lt, compare_swap] at less
    cases less

theorem not_le_of_lt {a b : Float} (h : a < b) : ¬ b ≤ a := fun other =>
  (le_iff_not_lt (ordered_of_lt h).1 (ordered_of_lt h).2).mp other h

theorem decide_le_eq_not_lt {a b : Float} (ha : Ordered a) (hb : Ordered b) :
    decide (b ≤ a) = !decide (a < b) := by
  by_cases h : a < b
  · simp [h, le_iff_not_lt ha hb]
  · simp [h, le_iff_not_lt ha hb]

/-! ## 2. Packing -/

/-- Packed bits stand for the error value when the exponent is full and the mantissa is not
empty. -/
theorem unpack_eq_notANumber_iff {spec : Format} (b : BitVec spec.numBits) :
    UnpackedFloat.unpack spec b = .notANumber ↔
      unpackExponent b = -1#_ ∧ unpackMantissa b ≠ 0#_ := by
  unfold UnpackedFloat.unpack
  by_cases he : unpackExponent b = -1#_
  · by_cases hm : unpackMantissa b = 0#_ <;> simp [he, hm]
  · simp only [he, ↓reduceIte, false_and, iff_false]
    split
    · split <;> simp
    · simp

theorem unpack_pack_ne_notANumber {spec : Format} {u : UnpackedFloat} (hu : u ≠ .notANumber) :
    UnpackedFloat.unpack spec (UnpackedFloat.pack spec u) ≠ .notANumber := by
  rw [Ne, unpack_eq_notANumber_iff]
  rintro ⟨he, hm⟩
  revert he hm
  fun_cases UnpackedFloat.pack spec u with
  | case1 => exact absurd rfl hu
  | case2 s => simp [packedInfinity]
  | case3 s => simp [packedZero]
  | case4 s m e h biased hb => simp [packedInfinity]
  | case5 s m e h bits biased hb hn =>
    -- the biased exponent of a normal number stays below the full one
    have hlt : biased < 2 ^ spec.exponentBits - 1 := by omega
    have hne : biased % 2 ^ spec.exponentBits ≠ 2 ^ spec.exponentBits - 1 := by
      rw [Nat.mod_eq_of_lt (by omega)]; omega
    simp [BitVec.neg_one_eq_allOnes, ← BitVec.toNat_inj, hne]
  | case6 s m e h bits biased hb hn => simp [Nat.pos_iff_ne_zero.1 spec.he]

theorem ordered_pack {u : UnpackedFloat} (hu : u ≠ .notANumber) :
    Ordered (.ofModel (.pack u)) := unpack_pack_ne_notANumber hu

/-! ## 3. Numbers that are ordered -/

/-- The number is neither infinite, nor zero, nor the error value. -/
def isRegular (x : Float) : Bool :=
  match x.toModel.unpack with
  | .finite .. => true
  | _ => false

theorem roundWithAccuracy_ne_notANumber (spec : Format) (s : Sign) (m : Nat) (e : Int)
    (a : Accuracy) : roundWithAccuracy spec s m e a ≠ .notANumber := by
  unfold roundWithAccuracy
  simp only
  split <;> simp

theorem ordered_mul {x y : Float} (hx : Ordered x) (hy : isRegular y = true) :
    Ordered (x * y) := by
  refine ordered_pack ?_
  unfold isRegular at hy
  unfold Ordered at hx
  revert hx hy
  cases y.toModel.unpack <;> cases x.toModel.unpack <;>
    simp [UnpackedFloat.mul, roundWithAccuracy_ne_notANumber]

theorem ordered_div {x y : Float} (hx : Ordered x) (hy : isRegular y = true) :
    Ordered (x / y) := by
  refine ordered_pack ?_
  unfold isRegular at hy
  unfold Ordered at hx
  revert hx hy
  cases y.toModel.unpack <;> cases x.toModel.unpack <;>
    simp [UnpackedFloat.div, roundWithAccuracy_ne_notANumber]

theorem ordered_neg {x : Float} (hx : Ordered x) : Ordered (-x) := by
  refine ordered_pack ?_
  unfold Ordered at hx
  revert hx
  cases x.toModel.unpack <;> simp [UnpackedFloat.neg]

theorem ordered_toFloat (n : UInt64) : Ordered n.toFloat := by
  refine ordered_pack ?_
  show UnpackedFloat.normalize _ _ _ _ ≠ _
  unfold UnpackedFloat.normalize
  split <;> simp [UnpackedFloat.round, roundWithAccuracy_ne_notANumber]

theorem isRegular_powerOfTen :
    ∀ x ∈ Float.exactlyRepresentablePowersOfTen, isRegular x = true := by
  decide

theorem unpackedOfScientific_ne_notANumber (spec : Format) (m : Nat) (e : Int) :
    UnpackedFloat.ofScientific spec m e ≠ .notANumber := by
  unfold UnpackedFloat.ofScientific
  repeat' split
  all_goals simp [UnpackedFloat.mul, UnpackedFloat.div, roundWithAccuracy_ne_notANumber]

theorem ordered_ofScientific (m : Nat) (s : Bool) (e : Nat) :
    Ordered (Float.ofScientific m s e) := by
  unfold Float.ofScientific
  split
  · have hp := fun h => isRegular_powerOfTen _ (Array.getElem_mem (i := e) h)
    simp only
    split
    · exact ordered_div (ordered_toFloat _) (hp _)
    · exact ordered_mul (ordered_toFloat _) (hp _)
  · exact ordered_pack (unpackedOfScientific_ne_notANumber _ _ _)

theorem ordered_ite {p : Prop} [Decidable p] {x y : Float} (hx : Ordered x) (hy : Ordered y) :
    Ordered (if p then x else y) := by
  split
  · exact hx
  · exact hy

theorem ordered_ofDecimal (negative : Bool) (digits : Nat) (exponent : Int) :
    Ordered (ofDecimal negative digits exponent) := by
  have hzero : Ordered 0.0 := by decide
  have hinfinite : Ordered (1.0 / 0.0) := by decide
  have hsize : Ordered
      (if digits = 0 then 0.0
      else if exponent + Int.ofNat (Nat.toDigits 10 digits).length > 400 then 1.0 / 0.0
      else if exponent + Int.ofNat (Nat.toDigits 10 digits).length < -400 then 0.0
      else if exponent < 0 then Float.ofScientific digits true exponent.natAbs
      else Float.ofScientific digits false exponent.natAbs) :=
    ordered_ite hzero <| ordered_ite hinfinite <| ordered_ite hzero <|
      ordered_ite (ordered_ofScientific _ _ _) (ordered_ofScientific _ _ _)
  exact ordered_ite (ordered_neg hsize) hsize

/-- What a numeral spells is never the error value. -/
theorem ordered_ofNumeral {t : Text} {x : Float} (h : ofNumeral? t = some x) : Ordered x := by
  simp only [ofNumeral?, Option.map_eq_some_iff] at h
  obtain ⟨⟨whole, places, exponent⟩, -, rfl⟩ := h
  exact ordered_ofDecimal _ _ _

/-- The exponent of a number as `parts` reads it. -/
theorem toNat_unpackExponent (x : Float) :
    (@unpackExponent Format.binary64 x.toModel.toBits.toBitVec).toNat =
      x.toBits.toNat / Nat.pow 2 52 % Nat.pow 2 11 := by
  show ((x.toModel.toBits.toBitVec.extractLsb 62 52).cast _).toNat = _
  rw [BitVec.toNat_cast, BitVec.extractLsb_toNat, Nat.shiftRight_eq_div_pow]
  rfl

theorem ordered_of_isFinite {x : Float} (h : isFinite x = true) : Ordered x := by
  intro hn
  have he := ((unpack_eq_notANumber_iff _).mp hn).1
  have hv := toNat_unpackExponent x
  rw [he] at hv
  have hfull : x.toBits.toNat / Nat.pow 2 52 % Nat.pow 2 11 = 2047 := by
    rw [← hv]; rfl
  simp only [isFinite, parts, hfull] at h
  revert h
  by_cases hf : x.toBits.toNat % Nat.pow 2 52 = 0 <;> simp [hf]

end VisualNovel.Number
