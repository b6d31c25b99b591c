import VisualNovel.Proofs.Number.Range

/-!
Rounding keeps the order.

Of two quantities that are not negative the greater one is not rounded to the lesser number
(`Rounded.mono`): where both are cut at the same place their significands are rounded in order, and
otherwise a power of two lies between them. So what counts up keeps counting up when it is rounded:
a difference does (`sub_mono`), a whole number does (`ofInt_mono`), and a quotient that is one at
least stays so (`one_le_div_mono`).
-/

namespace VisualNovel.Number

open Float.Model
open Float.Model.UnpackedFloat

/-! ## 1. Significands -/

/-- A greater quantity is not rounded to a lesser significand. -/
theorem Remembers.roundedMantissa_mono {m n : ExtendedMantissa} {x y : ℚ} (hm : Remembers m x)
    (hn : Remembers n y) (le : x ≤ y) : m.roundedMantissa ≤ n.roundedMantissa := by
  have below : m.mantissa < n.mantissa + 1 := by
    exact_mod_cast (hm.mantissa_le.trans le).trans_lt hn.lt_mantissa
  rcases Nat.lt_or_ge m.mantissa n.mantissa with less | same
  · exact (roundedMantissa_le m).2.trans (Nat.succ_le_of_lt less |>.trans (roundedMantissa_le n).1)
  -- With the same significand the bits behind it decide.
  obtain ⟨p, b, c⟩ := m
  obtain ⟨q, b', c'⟩ := n
  obtain rfl : p = q := by simp only at below same; omega
  have kept := (hm.least.trans le).trans_lt hn.most
  have half : b = true → b' = true := by
    rintro rfl
    by_contra other
    rw [Bool.not_eq_true] at other
    simp [keptPart, other] at kept
  have rest : b = b' → c = true → c' = true := by
    rintro rfl rfl
    by_contra other
    rw [Bool.not_eq_true] at other
    have least := hm.least
    have exact' := hn.rest.mp other
    have apart : x ≠ keptPart ⟨p, b, true⟩ := fun all => by simpa using hm.rest.mpr all
    simp only [keptPart] at least exact' apart
    exact apart (le_antisymm (le.trans exact'.le) least)
  simp only [ExtendedMantissa.roundedMantissa]
  cases b <;> cases b' <;> cases c <;> cases c' <;>
    simp_all [ExtendedMantissa.accuracy, Accuracy.roundToNearestEven]
  omega

/-! ## 2. Numbers of one sign -/

/-- Numbers are in the order of their places, and at one place in that of their significands. -/
theorem le_finite {m n : ℕ} {p q : ℤ} (hm : 0 < m) (hn : 0 < n)
    (order : p < q ∨ p = q ∧ m ≤ n) :
    UnpackedFloat.le (.finite .positive m p hm) (.finite .positive n q hn) = true := by
  have isLE : ((compare p q).then (compare m n)).isLE = true := by
    rcases order with less | ⟨rfl, le⟩
    · rw [Int.compare_eq_lt.mpr less]
      rfl
    · rw [compare_eq_iff_eq.mpr rfl]
      exact Nat.isLE_compare.mpr le
  simpa [UnpackedFloat.le, UnpackedFloat.compare] using isLE

/-- What is stored of a rounded significand: one that is carried to the next place is the least of
full width there, and what is too great is infinite. -/
def stored (m : ℕ) (p : ℤ) : UnpackedFloat :=
  if some : m = 0 then .zero .positive
  else if m < 2 ^ 53 then
    if p < 972 then .finite .positive m p (Nat.pos_of_ne_zero some) else .infinity .positive
  else if p + 1 < 972 then .finite .positive (2 ^ 52) (p + 1) (by decide) else .infinity .positive

theorem le_stored {m n : ℕ} {p q : ℤ} (carry : m ≤ 2 ^ 53)
    (order : p < q ∧ 2 ^ 52 ≤ n ∨ p = q ∧ m ≤ n) :
    UnpackedFloat.le (stored m p) (stored n q) = true := by
  unfold stored
  split_ifs <;> first | rfl | exact le_finite _ _ (by omega) | (exfalso; omega)

/-! ## 3. Rounding -/

/-- A quantity that is not negative is rounded to a number, as bits keep it. -/
def Rounded (q : ℚ) (u : UnpackedFloat) : Prop :=
  ∃ m e a x, Remembers (.ofMantissaAndAccuracy m a) x ∧ e ≤ max ((m.log2 : ℤ) + e - 52) (-1074) ∧
    x * 2 ^ e = q ∧
    u = UnpackedFloat.unpack .binary64
      (UnpackedFloat.pack .binary64 (roundWithAccuracy .binary64 .positive m e a))

/-- What a rounded significand that is placed as bits keep it comes back as. -/
theorem unpack_pack_placed {m : ℕ} {p : ℤ} (least : -1074 ≤ p) (full : p = -1074 ∨ 2 ^ 52 ≤ m)
    (most : m ≤ 2 ^ 53) :
    UnpackedFloat.unpack .binary64 (UnpackedFloat.pack .binary64 (
      let (last, q) := shiftToTargetExponent .binary64 m p .exact
      if h : last.mantissa = 0 then .zero .positive
      else .finite .positive last.mantissa q (Nat.pos_of_ne_zero h))) = stored m p := by
  rcases Nat.lt_or_eq_of_le most with narrow | rfl
  · simp only [shiftToTargetExponent_narrow narrow least, stored, if_pos narrow]
    split
    · exact unpack_pack_zero .positive
    · next some =>
      rcases Nat.lt_or_ge m (2 ^ 52) with short | wide
      · obtain rfl : p = -1074 := full.resolve_right (by omega)
        exact unpack_pack_of_fits (.inl ⟨short, rfl⟩) (Nat.pos_of_ne_zero some) .positive
      · have width : m.log2 = 52 := (Nat.log2_eq_iff some).mpr ⟨wide, narrow⟩
        exact unpack_pack_wide (Nat.pos_of_ne_zero some) width least .positive
  · have width : (2 ^ 52 : ℕ).log2 = 52 := Nat.log2_two_pow
    simp only [shiftToTargetExponent_carry least]
    rw [dif_neg (by decide), unpack_pack_wide _ width (by omega) .positive]
    simp [stored]

/-- A quantity is cut at a place where its significand has the full width, or at the last place
there is, and rounded there. -/
theorem Rounded.form {q : ℚ} {u : UnpackedFloat} (h : Rounded q u) : ∃ m y p,
    Remembers m y ∧ y * 2 ^ p = q ∧ -1074 ≤ p ∧ (p = -1074 ∨ 2 ^ 52 ≤ m.mantissa) ∧
      m.mantissa < 2 ^ 53 ∧ u = stored m.roundedMantissa p := by
  obtain ⟨m, e, a, x, remembers, enough, rfl, rfl⟩ := h
  generalize place : max ((m.log2 : ℤ) + e - 52) (-1074) = p at enough
  obtain ⟨k, rfl⟩ := Int.le.dest enough
  have amount : (max ((m.log2 : ℤ) + e - 52) (-1074) - e).toNat = k := by omega
  have first : shiftToTargetExponent .binary64 m e a =
      (ExtendedMantissa.ofMantissaAndAccuracy m a >>> k, e + k) := by
    simp only [shiftToTargetExponent, shiftToExponent, targetExponent_eq, amount]
  have cut := remembers.shiftRight k
  have scale : (0 : ℚ) < 2 ^ (e + k) := by positivity
  have units : x / 2 ^ k * 2 ^ (e + k) = x * 2 ^ e := by
    rw [zpow_add₀ two_ne_zero, zpow_natCast]
    field_simp
  generalize ExtendedMantissa.ofMantissaAndAccuracy m a >>> k = em at first cut
  have narrow : em.mantissa < 2 ^ 53 := by
    have below : x / 2 ^ k < 2 ^ 53 := by
      have small := (remembers.lt_zpow (e := e)).trans_le
        (zpow_le_zpow_right₀ one_le_two (by omega : (m.log2 : ℤ) + 1 + e ≤ (53 : ℕ) + (e + k)))
      rw [← units, zpow_add₀ two_ne_zero (53 : ℕ), zpow_natCast] at small
      exact lt_of_mul_lt_mul_right small scale.le
    exact_mod_cast cut.mantissa_le.trans_lt below
  have full : e + k = -1074 ∨ 2 ^ 52 ≤ em.mantissa := by
    rw [or_iff_not_imp_left]
    intro other
    have some : m ≠ 0 := by
      rintro rfl
      simp only [Nat.log2_zero, Nat.cast_zero, zero_add] at place
      omega
    have above : (2 : ℚ) ^ 52 ≤ x / 2 ^ k := by
      have large := (zpow_le_zpow_right₀ one_le_two
        (by omega : ((52 : ℕ) : ℤ) + (e + k) ≤ (m.log2 : ℤ) + e)).trans (remembers.zpow_le some)
      rw [← units, zpow_add₀ two_ne_zero (52 : ℕ), zpow_natCast] at large
      exact le_of_mul_le_mul_right large scale
    have : 2 ^ 52 < em.mantissa + 1 := by exact_mod_cast above.trans_lt cut.lt_mantissa
    omega
  refine ⟨em, x / 2 ^ k, e + k, cut, units, by omega, full, narrow, ?_⟩
  have bounds := roundedMantissa_le em
  rw [← unpack_pack_placed (by omega) (full.imp_right fun wide => wide.trans bounds.1) (by omega)]
  simp only [roundWithAccuracy, first]

/-- Of two quantities the greater one is not rounded to the lesser number. -/
theorem Rounded.mono {q r : ℚ} {u v : UnpackedFloat} (hu : Rounded q u) (hv : Rounded r v)
    (le : q ≤ r) : UnpackedFloat.le u v = true := by
  obtain ⟨m, x, p, left, rfl, least, full, narrow, rfl⟩ := hu.form
  obtain ⟨n, y, p', right, rfl, least', full', narrow', rfl⟩ := hv.form
  have carry : m.roundedMantissa ≤ 2 ^ 53 := by
    have := (roundedMantissa_le m).2
    omega
  refine le_stored carry ?_
  rcases lt_trichotomy p p' with less | rfl | more
  · -- A power of two lies between them.
    have wide := full'.resolve_left (by omega)
    exact .inl ⟨less, wide.trans (roundedMantissa_le n).1⟩
  · have scale : (0 : ℚ) < 2 ^ p := by positivity
    exact .inr ⟨rfl, left.roundedMantissa_mono right (le_of_mul_le_mul_right le scale)⟩
  · exfalso
    have wide := full.resolve_left (by omega)
    have scale : (0 : ℚ) < 2 ^ p' := by positivity
    have above : (2 : ℚ) ^ 52 ≤ x := by
      have : ((2 ^ 52 : ℕ) : ℚ) ≤ m.mantissa := by exact_mod_cast wide
      push_cast at this
      exact this.trans left.mantissa_le
    have below : y < 2 ^ 53 := by
      have : ((n.mantissa + 1 : ℕ) : ℚ) ≤ (2 ^ 53 : ℕ) := by exact_mod_cast narrow'
      push_cast at this
      exact right.lt_mantissa.trans_le this
    have twice : (2 : ℚ) * 2 ^ p' ≤ 2 ^ p := by
      rw [← zpow_one_add₀ two_ne_zero]
      exact zpow_le_zpow_right₀ one_le_two (by omega)
    have apart : y * 2 ^ p' < x * 2 ^ p :=
      calc y * 2 ^ p' < 2 ^ 53 * 2 ^ p' := mul_lt_mul_of_pos_right below scale
        _ = 2 ^ 52 * (2 * 2 ^ p') := by ring
        _ ≤ x * 2 ^ p := mul_le_mul above twice (by positivity) (by linarith)
    exact absurd le (not_le.mpr apart)

/-! ## 4. The order of numbers -/

/-- The place of a number in the order: its sign and kind, its power of two and its significand. -/
def rank : UnpackedFloat → ℤ ×ₗ ℤ ×ₗ ℤ
  | .notANumber | .zero _ => toLex (0, toLex (0, 0))
  | .infinity .positive => toLex (2, toLex (0, 0))
  | .infinity .negative => toLex (-2, toLex (0, 0))
  | .finite .positive m e _ => toLex (1, toLex (e, (m : ℤ)))
  | .finite .negative m e _ => toLex (-1, toLex (-e, -(m : ℤ)))

theorem le_iff_rank {u v : UnpackedFloat} (hu : u ≠ .notANumber) (hv : v ≠ .notANumber) :
    UnpackedFloat.le u v = true ↔ rank u ≤ rank v := by
  have places : ∀ (e f : ℤ) (m n : ℕ), ((compare e f).then (compare m n)).isLE = true ↔
      e < f ∨ e = f ∧ m ≤ n := by
    intro e f m n
    rcases lt_trichotomy e f with less | rfl | more
    · simp [Int.compare_eq_lt.mpr less, less]
    · simp [Nat.isLE_compare]
    · simp [Int.compare_eq_gt.mpr more, not_lt.mpr more.le, more.ne']
  have swapped : ∀ (e f : ℤ) (m n : ℕ), ((compare e f).then (compare m n)).swap.isLE = true ↔
      f < e ∨ e = f ∧ n ≤ m := by
    intro e f m n
    rcases lt_trichotomy e f with less | rfl | more
    · simp [Int.compare_eq_lt.mpr less, not_lt.mpr less.le, less.ne]
    · simp [Nat.isGE_compare]
    · simp [Int.compare_eq_gt.mpr more, more]
  cases u with
  | notANumber => exact absurd rfl hu
  | infinity s | zero s =>
    cases v with
    | notANumber => exact absurd rfl hv
    | infinity t | zero t | finite t =>
      cases s <;> cases t <;>
        simp [UnpackedFloat.le, UnpackedFloat.compare, rank, Prod.Lex.toLex_le_toLex] <;> decide
  | finite s m e hm =>
    cases v with
    | notANumber => exact absurd rfl hv
    | infinity t | zero t =>
      cases s <;> cases t <;>
        simp [UnpackedFloat.le, UnpackedFloat.compare, rank, Prod.Lex.toLex_le_toLex]
    | finite t n f hn =>
      cases s <;> cases t
      · refine (swapped e f m n).trans ?_
        simp [rank, Prod.Lex.toLex_le_toLex]
      · simp [UnpackedFloat.le, UnpackedFloat.compare, rank, Prod.Lex.toLex_le_toLex]
      · simp [UnpackedFloat.le, UnpackedFloat.compare, rank, Prod.Lex.toLex_le_toLex]
      · refine (places e f m n).trans ?_
        simp [rank, Prod.Lex.toLex_le_toLex]

/-- Only the least number is not above it. -/
theorem eq_low_of_rank_le {u : UnpackedFloat} (le : rank u ≤ rank (.infinity .negative)) :
    u = .infinity .negative := by
  cases u with
  | notANumber => simp [rank, Prod.Lex.toLex_le_toLex] at le
  | infinity s | zero s | finite s => cases s <;> simp [rank, Prod.Lex.toLex_le_toLex] at le ⊢

/-- Only the greatest number is not below it. -/
theorem eq_high_of_rank_le {u : UnpackedFloat} (le : rank (.infinity .positive) ≤ rank u) :
    u = .infinity .positive := by
  cases u with
  | notANumber => simp [rank, Prod.Lex.toLex_le_toLex] at le
  | infinity s | zero s | finite s => cases s <;> simp [rank, Prod.Lex.toLex_le_toLex] at le ⊢

variable {x y z : Float}

theorem le_iff_unpack : x ≤ y ↔ UnpackedFloat.le x.toModel.unpack y.toModel.unpack = true := by
  show (decide (x.toModel ≤ y.toModel)) = true ↔ _
  rw [decide_eq_true_iff]
  rfl

theorem le_ordered {u v : UnpackedFloat} (h : UnpackedFloat.le u v = true) :
    u ≠ .notANumber ∧ v ≠ .notANumber := by
  constructor
  · rintro rfl
    cases h
  · rintro rfl
    cases u <;> cases h

theorem unpacked_le_trans {u v w : UnpackedFloat} (first : UnpackedFloat.le u v = true)
    (second : UnpackedFloat.le v w = true) : UnpackedFloat.le u w = true := by
  obtain ⟨hu, hv⟩ := le_ordered first
  obtain ⟨-, hw⟩ := le_ordered second
  rw [le_iff_rank hu hv] at first
  rw [le_iff_rank hv hw] at second
  exact (le_iff_rank hu hw).mpr (first.trans second)

theorem le_trans (first : x ≤ y) (second : y ≤ z) : x ≤ z :=
  le_iff_unpack.mpr (unpacked_le_trans (le_iff_unpack.mp first) (le_iff_unpack.mp second))

/-- What an unpacked number that is neither infinite nor the error value stands for. -/
def value : UnpackedFloat → ℚ
  | .finite .positive m e _ => m * 2 ^ e
  | .finite .negative m e _ => -(m * 2 ^ e)
  | _ => 0

/-- Numbers that bits can hold are in the order of their places. -/
theorem size_le {m n : ℕ} {e f : ℤ} (hm : Fits m e) (hn : Fits n f)
    (order : e < f ∨ e = f ∧ m ≤ n) : (m : ℚ) * 2 ^ e ≤ n * 2 ^ f := by
  rcases order with less | ⟨rfl, le⟩
  · have wide : n.log2 = 52 := by
      rcases hn with ⟨-, rfl⟩ | ⟨wide, -, -⟩
      · exact absurd hm.least (by omega)
      · exact wide
    have full : 2 ^ 52 ≤ n := (Nat.le_log2 (by rintro rfl; simp at wide)).mp wide.ge
    calc (m : ℚ) * 2 ^ e ≤ 2 ^ 53 * 2 ^ e := by
          refine mul_le_mul_of_nonneg_right ?_ (by positivity)
          exact_mod_cast hm.lt_two_pow.le
      _ = 2 ^ 52 * 2 ^ (1 + e) := by
          rw [zpow_one_add₀ two_ne_zero]
          ring
      _ ≤ n * 2 ^ f := by
          refine mul_le_mul (by exact_mod_cast full) ?_ (by positivity) (by positivity)
          exact zpow_le_zpow_right₀ one_le_two (by omega)
  · exact mul_le_mul_of_nonneg_right (by exact_mod_cast le) (by positivity)

/-- The order of numbers is that of what they stand for. -/
theorem value_le (hx : isFinite x = true) (hy : isFinite y = true) (le : x ≤ y) :
    value x.toModel.unpack ≤ value y.toModel.unpack := by
  have order := le_iff_unpack.mp le
  obtain ⟨ox, oy⟩ := le_ordered order
  rw [le_iff_rank ox oy] at order
  have none : ∀ (m : ℕ) (e : ℤ), (0 : ℚ) ≤ m * 2 ^ e := fun m e => by positivity
  rcases isFinite_iff.mp hx with ⟨s, form⟩ | ⟨s, m, e, hm, form⟩ <;>
    rcases isFinite_iff.mp hy with ⟨t, form'⟩ | ⟨t, n, f, hn, form'⟩ <;>
    rw [form, form'] at order ⊢
  · exact le_rfl
  · cases t with
    | positive => exact none n f
    | negative => exact absurd order (by simp [rank, Prod.Lex.toLex_le_toLex])
  · cases s with
    | positive => exact absurd order (by simp [rank, Prod.Lex.toLex_le_toLex])
    | negative => exact neg_nonpos.mpr (none m e)
  · have fits := fits_of_unpack form
    have fits' := fits_of_unpack form'
    cases s <;> cases t <;> simp [rank, Prod.Lex.toLex_le_toLex] at order
    · exact neg_le_neg (size_le fits' fits (by omega))
    · exact (neg_nonpos.mpr (none m e)).trans (none n f)
    · exact size_le fits fits' (by omega)

/-! ## 5. Quotients -/

/-- What is packed with a negative sign is not positive. -/
theorem not_pos_of_negative {u : UnpackedFloat}
    (negative : u = .zero .negative ∨ ∃ m e pos, u = .finite .negative m e pos) :
    UnpackedFloat.lt (.zero .positive)
      (UnpackedFloat.unpack .binary64 (UnpackedFloat.pack .binary64 u)) = false := by
  have signed : ∀ a b, UnpackedFloat.lt (.zero .positive)
      (UnpackedFloat.unpack .binary64 (packComponents .binary64 .negative a b)) = false := by
    intro a b
    simp only [UnpackedFloat.unpack, unpackMantissa_packComponents, unpackExponent_packComponents,
      unpackSign_packComponents, ofBitVec_toBitVec]
    split_ifs <;> rfl
  rcases negative with rfl | ⟨m, e, pos, rfl⟩
  · exact signed _ _
  · simp only [UnpackedFloat.pack]
    split_ifs <;> exact signed _ _

theorem roundWithAccuracy_negative (m : ℕ) (e : ℤ) (a : Accuracy) :
    roundWithAccuracy .binary64 .negative m e a = .zero .negative ∨
      ∃ n p pos, roundWithAccuracy .binary64 .negative m e a = .finite .negative n p pos := by
  simp only [roundWithAccuracy]
  split_ifs with none
  · exact .inl rfl
  · exact .inr ⟨_, _, Nat.pos_of_ne_zero none, rfl⟩

theorem unpack_div (x y : Float) : (x / y).toModel.unpack = UnpackedFloat.unpack .binary64
    (UnpackedFloat.pack .binary64 (UnpackedFloat.div .binary64 x.toModel.unpack y.toModel.unpack)) :=
  rfl

/-- Where a quotient by a positive number is positive, that number is finite and the dividend is
positive. -/
theorem pos_of_div_pos {d : Float} (pos : 0.0 < d) (some : 0.0 < x / d) :
    0.0 < x ∧ ∃ n f hn, d.toModel.unpack = .finite .positive n f hn := by
  rw [zero_lt_iff, unpack_div] at some
  have zero : ∀ s, ¬ UnpackedFloat.lt (.zero .positive) (UnpackedFloat.unpack .binary64
      (UnpackedFloat.pack .binary64 (.zero s))) = true := by
    intro s
    rw [unpack_pack_zero]
    exact Bool.false_ne_true
  have error : ¬ UnpackedFloat.lt (.zero .positive) (UnpackedFloat.unpack .binary64
      (UnpackedFloat.pack .binary64 .notANumber)) = true := by decide
  have infinite : ¬ UnpackedFloat.lt (.zero .positive) (UnpackedFloat.unpack .binary64
      (UnpackedFloat.pack .binary64 (.infinity .negative))) = true := by decide
  have negative : ∀ {u}, (u = .zero .negative ∨ ∃ m e pos, u = .finite .negative m e pos) →
      ¬ UnpackedFloat.lt (.zero .positive)
        (UnpackedFloat.unpack .binary64 (UnpackedFloat.pack .binary64 u)) = true :=
    fun signed some => Bool.false_ne_true ((not_pos_of_negative signed).symm.trans some)
  rw [zero_lt_iff]
  rcases unpack_of_pos pos with form | ⟨n, f, hn, form⟩ <;> rw [form] at some ⊢
  · -- Nothing divided by an infinite number is positive.
    cases dividend : x.toModel.unpack with
    | notANumber | infinity =>
      rw [dividend] at some
      exact absurd some error
    | zero | finite =>
      rw [dividend] at some
      exact absurd some (zero _)
  · refine ⟨?_, n, f, hn, rfl⟩
    cases dividend : x.toModel.unpack with
    | notANumber =>
      rw [dividend] at some
      exact absurd some error
    | zero =>
      rw [dividend] at some
      exact absurd some (zero _)
    | infinity s =>
      rw [dividend] at some
      cases s with
      | positive => rfl
      | negative => exact absurd some infinite
    | finite s =>
      rw [dividend] at some
      cases s with
      | positive => rfl
      | negative => exact absurd some (negative (roundWithAccuracy_negative _ _ _))

theorem pos_of_le (pos : 0.0 < x) (le : x ≤ y) : 0.0 < y := by
  have ordered := le_ordered (le_iff_unpack.mp le)
  by_contra other
  have below := (le_iff_not_lt (ordered_of_lt pos).1 ordered.2).mpr other
  exact not_le_of_lt pos (le_trans le below)

/-- A quotient that is one at least stays so when the dividend grows. -/
theorem one_le_div_mono {d : Float} (pos : 0.0 < d) (le : x ≤ y) (one : 1.0 ≤ x / d) :
    1.0 ≤ y / d := by
  have some := pos_of_one_le (le_ordered (le_iff_unpack.mp one)).2 one
  obtain ⟨px, n, f, hn, form⟩ := pos_of_div_pos pos some
  have quotient : ∀ {z : Float} {k g hk}, z.toModel.unpack = .finite .positive k g hk →
      Rounded (k / n * 2 ^ (g - f)) (z / d).toModel.unpack := by
    intro z k g hk same
    obtain ⟨l, t, a, w, remembers, enough, same', round⟩ := @div_eq_round k n g f hk hn
    exact ⟨l, t, a, w, remembers, enough, same', by rw [unpack_div, same, form, round]⟩
  refine le_trans one ?_
  rcases unpack_of_pos (pos_of_le px le) with above | ⟨k, g, hk, above⟩
  · -- An infinite dividend has an infinite quotient.
    have ordered := (le_ordered (le_iff_unpack.mp one)).2
    have top : (y / d).toModel.unpack = .infinity .positive := by
      rw [unpack_div, above, form]
      exact unpack_pack_infinity .positive
    rw [le_iff_unpack, top]
    rcases unpack_of_pos some with same | ⟨_, _, _, same⟩ <;> rw [same] <;> rfl
  · have order := le_iff_unpack.mp le
    rw [le_iff_rank (le_ordered order).1 (le_ordered order).2, above] at order
    rcases unpack_of_pos px with below | ⟨m, e, hm, below⟩ <;> rw [below] at order
    · exact absurd order (by simp [rank, Prod.Lex.toLex_le_toLex])
    · rw [le_iff_unpack]
      refine (quotient below).mono (quotient above) ?_
      have sizes := size_le (fits_of_unpack below) (fits_of_unpack above)
        (by simpa [rank, Prod.Lex.toLex_le_toLex] using order)
      have scale : ∀ (i : ℕ) (j : ℤ), (i : ℚ) / n * 2 ^ (j - f) = i * 2 ^ j / (n * 2 ^ f) := by
        intro i j
        rw [zpow_sub₀ two_ne_zero]
        ring
      rw [scale, scale]
      exact div_le_div_of_nonneg_right sizes (by positivity)

/-! ## 6. Differences -/

/-- A number that bits can hold is rounded to itself. -/
theorem rounded_self {m : ℕ} {e : ℤ} (fits : Fits m e) (pos : 0 < m) :
    Rounded (m * 2 ^ e) (.finite .positive m e pos) := by
  have enough : e ≤ max ((m.log2 : ℤ) + e - 52) (-1074) := by
    rcases fits with ⟨-, rfl⟩ | ⟨wide, -, -⟩
    · exact le_max_right _ _
    · rw [wide]
      omega
  refine ⟨m, e, .exact, m, remembers_exact m, enough, rfl, ?_⟩
  rw [roundWithAccuracy_near (remembers_exact m) enough fits pos (near_self m e) .positive,
    unpack_pack_of_fits fits pos]

/-- A positive size of any places is rounded once. -/
theorem rounded_round {m : ℕ} (pos : 0 < m) (e : ℤ) : Rounded (m * 2 ^ e)
    (UnpackedFloat.unpack .binary64 (UnpackedFloat.pack .binary64
      (UnpackedFloat.round .binary64 .positive m e))) := by
  simp only [UnpackedFloat.round, targetExponent_eq, decreaseExponent, Nat.shiftLeft_eq]
  generalize amount : (e - max ((m.log2 : ℤ) + e - 52) (-1074)).toNat = k
  refine ⟨m * 2 ^ k, e - k, .exact, (m * 2 ^ k : ℕ), remembers_exact _, ?_, ?_, rfl⟩
  · rw [log2_mul_two_pow pos]
    push_cast
    omega
  · rw [Nat.cast_mul, Nat.cast_pow, Nat.cast_ofNat, mul_assoc, ← zpow_natCast,
      ← zpow_add₀ two_ne_zero]
    congr 2
    omega

/-- What a finite size with a sign stands for, in lower places. -/
theorem apply_eq_value (s : Sign) {k : ℕ} {g t : ℤ} (hk : 0 < k) (below : t ≤ g) :
    (s.apply ((k * 2 ^ (g - t).toNat : ℕ) : ℤ) : ℚ) * 2 ^ t = value (.finite s k g hk) := by
  have grown : ((k * 2 ^ (g - t).toNat : ℕ) : ℚ) * 2 ^ t = k * 2 ^ g := by
    rw [Nat.cast_mul, Nat.cast_pow, Nat.cast_ofNat, mul_assoc, ← zpow_natCast,
      ← zpow_add₀ two_ne_zero]
    congr 2
    omega
  cases s with
  | positive =>
    show (((k * 2 ^ (g - t).toNat : ℕ) : ℤ) : ℚ) * 2 ^ t = k * 2 ^ g
    rw [Int.cast_natCast, grown]
  | negative =>
    show ((-((k * 2 ^ (g - t).toNat : ℕ) : ℤ) : ℤ) : ℚ) * 2 ^ t = -(k * 2 ^ g)
    rw [Int.cast_neg, Int.cast_natCast, neg_mul, grown]

/-- A finite number is itself rounded, or not positive. -/
theorem rounded_or_not_pos (hx : isFinite x = true) :
    (0 < value x.toModel.unpack ∧ Rounded (value x.toModel.unpack) x.toModel.unpack) ∨
      (value x.toModel.unpack ≤ 0 ∧ ¬ 0.0 < x) := by
  rw [zero_lt_iff]
  rcases isFinite_iff.mp hx with ⟨s, form⟩ | ⟨s, m, e, hm, form⟩
  · rw [form]
    exact .inr ⟨le_rfl, Bool.false_ne_true⟩
  · have fits := fits_of_unpack form
    have size : (0 : ℚ) < m * 2 ^ e := by positivity
    rw [form]
    cases s with
    | positive => exact .inl ⟨size, rounded_self fits hm⟩
    | negative => exact .inr ⟨neg_nonpos.mpr size.le, Bool.false_ne_true⟩

/-- A sum of finite numbers is what they stand for together, rounded once, or not positive. -/
theorem rounded_add (hx : isFinite x = true) (hy : isFinite y = true) :
    (0 < value x.toModel.unpack + value y.toModel.unpack ∧
      Rounded (value x.toModel.unpack + value y.toModel.unpack) (x + y).toModel.unpack) ∨
      (value x.toModel.unpack + value y.toModel.unpack ≤ 0 ∧ ¬ 0.0 < x + y) := by
  rcases isFinite_iff.mp hx with ⟨s, form⟩ | ⟨s, m, e, hm, form⟩
  · -- Nothing is added.
    have zero : value x.toModel.unpack = 0 := by rw [form]; rfl
    rcases isFinite_iff.mp hy with ⟨t, form'⟩ | ⟨t, n, f, hn, form'⟩
    · refine .inr ⟨by rw [form, form']; exact (add_zero (0 : ℚ)).le, ?_⟩
      rw [zero_lt_iff, unpack_add, form, form']
      cases s <;> cases t <;> decide
    · have plain : UnpackedFloat.add .binary64 (.zero s) y.toModel.unpack = y.toModel.unpack := by
        rw [form']
        rfl
      have same : (x + y).toModel.unpack = y.toModel.unpack := by
        rw [unpack_add, form, plain, unpack_pack_unpack]
      rw [zero, zero_add, zero_lt_iff, same, ← zero_lt_iff]
      exact rounded_or_not_pos hy
  · rcases isFinite_iff.mp hy with ⟨t, form'⟩ | ⟨t, n, f, hn, form'⟩
    · have zero : value y.toModel.unpack = 0 := by rw [form']; rfl
      have plain : UnpackedFloat.add .binary64 x.toModel.unpack (.zero t) = x.toModel.unpack := by
        rw [form]
        rfl
      have same : (x + y).toModel.unpack = x.toModel.unpack := by
        rw [unpack_add, form', plain, unpack_pack_unpack]
      rw [zero, add_zero, zero_lt_iff, same, ← zero_lt_iff]
      exact rounded_or_not_pos hx
    · rw [zero_lt_iff, unpack_add, form, form', add_finite,
        ← apply_eq_value s hm (min_le_left e f), ← apply_eq_value t hn (min_le_right e f),
        ← add_mul, ← Int.cast_add]
      generalize s.apply ((m * 2 ^ (e - min e f).toNat : ℕ) : ℤ) +
        t.apply ((n * 2 ^ (f - min e f).toNat : ℕ) : ℤ) = sum
      have scale : (0 : ℚ) < 2 ^ min e f := by positivity
      rcases lt_trichotomy sum 0 with below | rfl | above
      · refine .inr ⟨mul_nonpos_of_nonpos_of_nonneg (by exact_mod_cast below.le) scale.le, ?_⟩
        simp only [UnpackedFloat.normalize, Int.compare_eq_lt.mpr below]
        exact fun some => Bool.false_ne_true
          ((not_pos_of_negative (roundWithAccuracy_negative _ _ _)).symm.trans some)
      · refine .inr ⟨by simp, ?_⟩
        have zero : UnpackedFloat.normalize .binary64 0 (min e f) .positive = .zero .positive := rfl
        rw [zero, unpack_pack_zero]
        exact Bool.false_ne_true
      · refine .inl ⟨mul_pos (by exact_mod_cast above) scale, ?_⟩
        have whole : (sum : ℚ) = (sum.toNat : ℕ) := by
          rw [← Int.cast_natCast, Int.toNat_of_nonneg above.le]
        simp only [UnpackedFloat.normalize, Int.compare_eq_gt.mpr above]
        rw [whole]
        exact rounded_round (by omega) _

/-- A sum with an infinite number of the negative sign, or with the error value, is not positive. -/
theorem not_pos_add (low : x.toModel.unpack = .infinity .negative ∨
    y.toModel.unpack = .infinity .negative ∨ y.toModel.unpack = .notANumber) : ¬ 0.0 < x + y := by
  have bottom : UnpackedFloat.add .binary64 x.toModel.unpack y.toModel.unpack = .infinity .negative ∨
      UnpackedFloat.add .binary64 x.toModel.unpack y.toModel.unpack = .notANumber := by
    rcases low with same | same | same
    · rw [same]
      cases y.toModel.unpack with
      | infinity t => cases t <;> simp [UnpackedFloat.add]
      | _ => simp [UnpackedFloat.add]
    · rw [same]
      cases x.toModel.unpack with
      | infinity s => cases s <;> simp [UnpackedFloat.add]
      | _ => simp [UnpackedFloat.add]
    · rw [same]
      cases x.toModel.unpack <;> simp [UnpackedFloat.add]
  rw [zero_lt_iff, unpack_add]
  rcases bottom with same | same <;> rw [same] <;> decide

/-- A sum with an infinite number of the positive sign is infinite. -/
theorem add_top {u v : UnpackedFloat} (top : u = .infinity .positive ∨ v = .infinity .positive)
    (hu : u ≠ .notANumber ∧ u ≠ .infinity .negative)
    (hv : v ≠ .notANumber ∧ v ≠ .infinity .negative) :
    UnpackedFloat.add .binary64 u v = .infinity .positive := by
  rcases top with rfl | rfl
  · cases v with
    | notANumber => exact absurd rfl hv.1
    | infinity t =>
      cases t with
      | positive => rfl
      | negative => exact absurd rfl hv.2
    | zero | finite => rfl
  · cases u with
    | notANumber => exact absurd rfl hu.1
    | infinity s =>
      cases s with
      | positive => rfl
      | negative => exact absurd rfl hu.2
    | zero | finite => rfl

theorem isFinite_of_ne (ordered : x.toModel.unpack ≠ .notANumber)
    (high : x.toModel.unpack ≠ .infinity .positive) (low : x.toModel.unpack ≠ .infinity .negative) :
    isFinite x = true := by
  by_contra other
  rcases unpack_of_not_finite (Bool.not_eq_true _ ▸ other) with same | ⟨s, same⟩
  · exact ordered same
  · cases s with
    | positive => exact high same
    | negative => exact low same

/-- A positive sum does not become less when its first number grows. -/
theorem add_mono {c : Float} (le : x ≤ y) (pos : 0.0 < x + c) : x + c ≤ y + c := by
  have order := le_iff_unpack.mp le
  obtain ⟨ox, oy⟩ := le_ordered order
  rw [le_iff_rank ox oy] at order
  have lx : x.toModel.unpack ≠ .infinity .negative := fun same => not_pos_add (.inl same) pos
  have lc : c.toModel.unpack ≠ .infinity .negative := fun same => not_pos_add (.inr (.inl same)) pos
  have oc : c.toModel.unpack ≠ .notANumber := fun same => not_pos_add (.inr (.inr same)) pos
  have ly : y.toModel.unpack ≠ .infinity .negative :=
    fun same => lx (eq_low_of_rank_le (same ▸ order))
  rw [le_iff_unpack]
  by_cases top : y.toModel.unpack = .infinity .positive ∨ c.toModel.unpack = .infinity .positive
  · have sum : (y + c).toModel.unpack = .infinity .positive := by
      rw [unpack_add, add_top top ⟨oy, ly⟩ ⟨oc, lc⟩]
      exact unpack_pack_infinity .positive
    rw [sum]
    rcases unpack_of_pos pos with same | ⟨_, _, _, same⟩ <;> rw [same] <;> rfl
  · obtain ⟨hy, hc⟩ := not_or.mp top
    have hx : x.toModel.unpack ≠ .infinity .positive :=
      fun same => hy (eq_high_of_rank_le (same ▸ order))
    have fx := isFinite_of_ne ox hx lx
    have fy := isFinite_of_ne oy hy ly
    have fc := isFinite_of_ne oc hc lc
    have sizes := add_le_add_left (value_le fx fy le) (value c.toModel.unpack)
    rcases rounded_add fx fc with ⟨above, rounded⟩ | ⟨-, none⟩
    · rcases rounded_add fy fc with ⟨-, rounded'⟩ | ⟨below, -⟩
      · exact rounded.mono rounded' sizes
      · exact absurd (above.trans_le sizes) (not_lt.mpr below)
    · exact absurd pos none

/-- A positive difference does not become less when what it is taken from grows. -/
theorem sub_mono {c : Float} (le : x ≤ y) (pos : 0.0 < x - c) : x - c ≤ y - c := by
  rw [sub_eq_add_neg] at pos
  rw [sub_eq_add_neg, sub_eq_add_neg]
  exact add_mono le pos

/-! ## 7. Whole numbers -/

/-- A positive whole number is rounded once. -/
theorem rounded_ofNat {n : ℕ} (pos : 0 < n) : Rounded n (Float.ofNat n).toModel.unpack := by
  rcases Nat.lt_or_ge n (2 ^ 53) with small | large
  · obtain ⟨s, width⟩ : ∃ s, n.log2 + s = 52 :=
      ⟨52 - n.log2, by have := (Nat.log2_lt pos.ne').mpr small; omega⟩
    have wide : (n * 2 ^ s).log2 = 52 := by rw [log2_mul_two_pow pos, width]
    have whole : ((n * 2 ^ s : ℕ) : ℚ) * 2 ^ (-(s : ℤ)) = n := by
      rw [Nat.cast_mul, Nat.cast_pow, Nat.cast_ofNat, mul_assoc, ← zpow_natCast,
        ← zpow_add₀ two_ne_zero]
      simp
    rw [unpack_ofNat pos width, ← whole]
    exact rounded_self (.inr ⟨wide, by omega, by omega⟩) _
  · have wide : 53 ≤ n.log2 := (Nat.le_log2 pos.ne').mpr large
    have log : (n <<< 53 * 10 ^ 0).log2 = n.log2 + 53 := by
      rw [Nat.pow_zero, Nat.mul_one, Nat.shiftLeft_eq, log2_mul_two_pow pos]
    have plain : UnpackedFloat.ofScientific .binary64 n 0 =
        roundWithAccuracy .binary64 .positive (n <<< 53 * 10 ^ 0) (-53 + 0) .exact := by
      have above : ¬ (0 : ℤ) < -(2 ^ 11 + (n.log2 : ℤ)) := by omega
      rw [UnpackedFloat.ofScientific, dif_neg pos.ne', if_neg (by decide), if_neg above,
        if_pos (Int.le_refl 0), UnpackedFloat.mul]
      rfl
    have form : Float.ofNat n =
        .ofModel (Float.Model.pack (UnpackedFloat.ofScientific .binary64 n 0)) := by
      change Float.ofScientific n false 0 = _
      rw [Float.ofScientific, dif_neg (by omega)]
      rfl
    have bits : ∀ u, (Float.ofModel (Float.Model.pack u)).toModel.unpack =
        UnpackedFloat.unpack .binary64 (UnpackedFloat.pack .binary64 u) := fun _ => rfl
    refine ⟨n <<< 53 * 10 ^ 0, -53 + 0, .exact, (n <<< 53 * 10 ^ 0 : ℕ), remembers_exact _, by omega,
      ?_, ?_⟩
    · have scale : (2 : ℚ) ^ 53 * 2 ^ (-53 + 0 : ℤ) = 1 := by norm_num
      rw [Nat.shiftLeft_eq, Nat.pow_zero, Nat.mul_one, Nat.cast_mul, Nat.cast_pow, Nat.cast_ofNat,
        mul_assoc, scale]
      simp
    · rw [form, bits, plain]

/-- Whole numbers are rounded in order. -/
theorem ofInt_mono {a b : ℤ} (le : a ≤ b) (pos : 0.0 < Float.ofInt a) :
    Float.ofInt a ≤ Float.ofInt b := by
  have some : 0 < a := by
    rw [zero_lt_iff] at pos
    rcases a with (_ | n) | n
    · cases pos
    · exact Int.natCast_pos.mpr n.succ_pos
    · change UnpackedFloat.lt (.zero .positive) (-Float.ofNat (n + 1)).toModel.unpack = true at pos
      rw [unpack_neg] at pos
      obtain ⟨m, _, p, _, _, _, _, _, form⟩ := (rounded_ofNat n.succ_pos).form
      rw [form, stored] at pos
      split_ifs at pos <;> cases pos
  lift a to ℕ using some.le
  lift b to ℕ using (some.trans_le le).le
  exact le_iff_unpack.mpr
    ((rounded_ofNat (by omega)).mono (rounded_ofNat (by omega)) (by exact_mod_cast le))

end VisualNovel.Number
