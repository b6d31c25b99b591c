import VisualNovel.Proofs.Number.Difference
import VisualNovel.Proofs.Number.Rounding
import VisualNovel.Proofs.Number.Unsigned

/-!
The number nearest to a quantity.

A product or a quotient is cut to the width of a significand, and two bits remember what was cut off
(`Remembers`). So it is rounded once, to the number that it is near to (`roundWithAccuracy_near`), where
a quantity is near to a number if it is between the middles to the two neighbours (`Near`). A decimal
is such a product or quotient, and a decimal that is near to a number is read as this number
(`ofDecimal_near`).
-/

namespace VisualNovel.Number

open Float.Model
open Float.Model.UnpackedFloat

/-! ## 1. What is cut off -/

/-- The part of a quantity that an extended significand keeps. -/
def keptPart (m : ExtendedMantissa) : ℚ := m.mantissa + if m.roundBit then 1 / 2 else 0

/-- An extended significand keeps a quantity to a half, and remembers whether this is all of it. -/
structure Remembers (m : ExtendedMantissa) (x : ℚ) : Prop where
  least : keptPart m ≤ x
  most : x < keptPart m + 1 / 2
  rest : m.stickyBit = false ↔ x = keptPart m

theorem keptPart_shiftRightOne (m : ExtendedMantissa) :
    keptPart m.shiftRightOne = (m.mantissa : ℚ) / 2 := by
  rcases Nat.even_or_odd' m.mantissa with ⟨k, even | odd⟩
  · have half : m.mantissa / 2 = k := by omega
    have bit : m.mantissa % 2 = 0 := by omega
    simp only [keptPart, ExtendedMantissa.shiftRightOne, half, bit]
    rw [even]
    push_cast
    norm_num
  · have half : m.mantissa / 2 = k := by omega
    have bit : m.mantissa % 2 = 1 := by omega
    simp only [keptPart, ExtendedMantissa.shiftRightOne, half, bit]
    rw [odd]
    push_cast
    norm_num
    ring

theorem Remembers.mantissa_le {m : ExtendedMantissa} {x : ℚ} (h : Remembers m x) :
    (m.mantissa : ℚ) ≤ x := by
  have least := h.least
  unfold keptPart at least
  split at least <;> linarith

theorem Remembers.lt_mantissa {m : ExtendedMantissa} {x : ℚ} (h : Remembers m x) :
    x < m.mantissa + 1 := by
  have most := h.most
  unfold keptPart at most
  split at most <;> linarith

theorem Remembers.shiftRightOne {m : ExtendedMantissa} {x : ℚ} (h : Remembers m x) :
    Remembers m.shiftRightOne (x / 2) := by
  have low := h.mantissa_le
  have high := h.lt_mantissa
  have half := keptPart_shiftRightOne m
  refine ⟨by rw [half]; linarith, by rw [half]; linarith, ?_⟩
  rw [half]
  obtain ⟨least, -, rest⟩ := h
  unfold keptPart at least rest
  simp only [ExtendedMantissa.shiftRightOne, Bool.or_eq_false_iff]
  constructor
  · rintro ⟨round, sticky⟩
    have all := rest.mp sticky
    rw [round] at all
    simp only [Bool.false_eq_true, if_false, add_zero] at all
    rw [all]
  · intro same
    have all : x = m.mantissa := by linarith
    have round : m.roundBit = false := by
      by_contra set
      rw [Bool.not_eq_false] at set
      rw [set, all] at least
      norm_num at least
    refine ⟨round, rest.mpr ?_⟩
    rw [round, all]
    norm_num

theorem Remembers.shiftRight {m : ExtendedMantissa} {x : ℚ} (h : Remembers m x) (n : ℕ) :
    Remembers (m >>> n) (x / 2 ^ n) := by
  induction n with
  | zero => simpa [HShiftRight.hShiftRight, Nat.repeat] using h
  | succ n ih =>
    have one := ih.shiftRightOne
    rwa [div_div, ← pow_succ] at one

theorem remembers_exact (m : ℕ) :
    Remembers (.ofMantissaAndAccuracy m .exact) m := by
  simp [ExtendedMantissa.ofMantissaAndAccuracy]
  constructor <;> simp [keptPart]

/-- What is left of a division is remembered. -/
theorem remembers_fraction {num den : ℕ} (less : num < den) (m : ℕ) :
    Remembers (.ofMantissaAndAccuracy m (accuracyOfFraction num den)) (m + num / den) := by
  have den_pos : (0 : ℚ) < den := by exact_mod_cast Nat.zero_lt_of_lt less
  have below : (num : ℚ) / den < 1 := by
    rw [div_lt_one den_pos]
    exact_mod_cast less
  unfold accuracyOfFraction
  split
  · next none =>
    rw [none]
    simpa using remembers_exact m
  · next some =>
    have num_pos : (0 : ℚ) < num / den := by
      apply div_pos _ den_pos
      exact_mod_cast Nat.pos_of_ne_zero some
    have place : ∀ c : ℚ, ((num : ℚ) / den < c ↔ (num : ℚ) < c * den) ∧
        (c < (num : ℚ) / den ↔ c * den < num) ∧ ((num : ℚ) / den = c ↔ (num : ℚ) = c * den) :=
      fun c => ⟨div_lt_iff₀ den_pos, lt_div_iff₀ den_pos, div_eq_iff den_pos.ne'⟩
    obtain ⟨less, more, same⟩ := place (1 / 2)
    generalize (num : ℚ) / den = rest at *
    rcases h : compare (2 * num) den with _ | _ | _
    · have twice : ((2 * num : ℕ) : ℚ) < den := by exact_mod_cast Nat.compare_eq_lt.mp h
      push_cast at twice
      have half := less.mpr (by linarith)
      constructor <;> simp [keptPart, ExtendedMantissa.ofMantissaAndAccuracy] <;> linarith
    · have twice : ((2 * num : ℕ) : ℚ) = den := by exact_mod_cast Nat.compare_eq_eq.mp h
      push_cast at twice
      have half := same.mpr (by linarith)
      constructor <;> simp [keptPart, ExtendedMantissa.ofMantissaAndAccuracy, half]
    · have twice : (den : ℚ) < ((2 * num : ℕ) : ℚ) := by exact_mod_cast Nat.compare_eq_gt.mp h
      push_cast at twice
      have half := more.mpr (by linarith)
      constructor <;> simp [keptPart, ExtendedMantissa.ofMantissaAndAccuracy] <;> linarith

/-- A quantity is rounded to a natural number: it is a half away at most, and from an odd number
less. -/
structure Rounds (x : ℚ) (n : ℕ) : Prop where
  least : (n : ℚ) - 1 / 2 ≤ x
  most : x ≤ n + 1 / 2
  odd : n % 2 = 1 → (n : ℚ) - 1 / 2 < x ∧ x < n + 1 / 2

/-- Rounding takes the nearest number, and the even one of two. -/
theorem Remembers.roundedMantissa {m : ExtendedMantissa} {x : ℚ} {n : ℕ} (h : Remembers m x)
    (rounds : Rounds x n) : m.roundedMantissa = n := by
  obtain ⟨mantissa, roundBit, stickyBit⟩ := m
  obtain ⟨least, most, rest⟩ := h
  obtain ⟨low, high, odd⟩ := rounds
  cases roundBit <;> cases stickyBit <;>
    simp only [keptPart, if_true, if_false, Bool.false_eq_true, Bool.true_eq_false, true_iff,
      false_iff, add_zero] at least most rest <;>
    simp only [ExtendedMantissa.roundedMantissa, ExtendedMantissa.accuracy,
      Accuracy.roundToNearestEven]
  · have up : ((2 * mantissa : ℕ) : ℚ) ≤ (2 * n + 1 : ℕ) := by push_cast; linarith
    have down : ((2 * n : ℕ) : ℚ) ≤ (2 * mantissa + 1 : ℕ) := by push_cast; linarith
    norm_cast at up down
    omega
  · have up : (mantissa : ℚ) < (n + 1 : ℕ) := by
      push_cast
      linarith [lt_of_le_of_ne least (Ne.symm rest)]
    have down : ((n : ℕ) : ℚ) < (mantissa + 1 : ℕ) := by push_cast; linarith
    norm_cast at up down
    omega
  · -- The quantity is in the middle, so that the number is even.
    have up : (mantissa : ℚ) ≤ n := by linarith
    have down : (n : ℚ) ≤ (mantissa + 1 : ℕ) := by push_cast; linarith
    norm_cast at up down
    have even : n % 2 = 0 := by
      by_contra other
      obtain ⟨low, high⟩ := odd (by omega)
      have above : (mantissa : ℚ) < n := by linarith
      have below : (n : ℚ) < (mantissa + 1 : ℕ) := by push_cast; linarith
      norm_cast at above below
      omega
    omega
  · have up : (mantissa : ℚ) < n := by linarith [lt_of_le_of_ne least (Ne.symm rest)]
    have down : (n : ℚ) < (mantissa + 2 : ℕ) := by push_cast; linarith
    norm_cast at up down
    omega

/-! ## 2. Rounding to a significand -/

/-- How far the middle to the neighbour below is away, in units of the last place. Below a power of
two the numbers are twice as close, except at the least power. -/
def gapBelow (m : ℕ) (p : ℤ) : ℚ := if m = 2 ^ 52 ∧ -1074 < p then 1 / 4 else 1 / 2

theorem gapBelow_pos (m : ℕ) (p : ℤ) : 0 < gapBelow m p := by
  unfold gapBelow
  split <;> norm_num

theorem gapBelow_le (m : ℕ) (p : ℤ) : gapBelow m p ≤ 1 / 2 := by
  unfold gapBelow
  split <;> norm_num

/-- Below an odd significand the numbers are as far apart as above it. -/
theorem gapBelow_of_odd {m : ℕ} (odd : m % 2 = 1) (p : ℤ) : gapBelow m p = 1 / 2 := by
  refine if_neg fun even => ?_
  rw [even.1] at odd
  omega

/-- A quantity is between the middles to the neighbours of `m * 2 ^ p`, and at one of them only if
`m` is even. -/
structure Near (m : ℕ) (p : ℤ) (q : ℚ) : Prop where
  least : (m - gapBelow m p) * 2 ^ p ≤ q
  most : q ≤ (m + 1 / 2) * 2 ^ p
  odd : m % 2 = 1 → (m - gapBelow m p) * 2 ^ p < q ∧ q < (m + 1 / 2) * 2 ^ p

/-- In units of the last place a quantity is rounded to the number that it is near to. -/
theorem Near.rounds {m : ℕ} {p : ℤ} {x : ℚ} (near : Near m p (x * 2 ^ p)) : Rounds x m := by
  have scale : (0 : ℚ) < 2 ^ p := by positivity
  refine ⟨?_, le_of_mul_le_mul_right near.most scale, fun odd => ?_⟩
  · have least := le_of_mul_le_mul_right near.least scale
    have gap := gapBelow_le m p
    linarith
  · obtain ⟨above, below⟩ := near.odd odd
    rw [gapBelow_of_odd odd] at above
    exact ⟨lt_of_mul_lt_mul_right above scale.le, lt_of_mul_lt_mul_right below scale.le⟩

/-- A significand of the full width at most is not shifted. -/
theorem shiftToTargetExponent_narrow {m : ℕ} {e : ℤ} (narrow : m < 2 ^ 53) (least : -1074 ≤ e) :
    shiftToTargetExponent .binary64 m e .exact = (⟨m, false, false⟩, e) := by
  have width : m.log2 ≤ 52 := by
    rcases Nat.eq_zero_or_pos m with rfl | pos
    · decide
    · exact Nat.lt_succ_iff.mp ((Nat.log2_lt pos.ne').mpr narrow)
  have amount : (Format.binary64.targetExponent (totalExponent m e) - e).toNat = 0 := by
    simp only [Format.targetExponent, totalExponent, Format.minExponent, Format.mantissaBits]
    omega
  simp only [shiftToTargetExponent, shiftToExponent, amount, ExtendedMantissa.ofMantissaAndAccuracy]
  simp [HShiftRight.hShiftRight, Nat.repeat]

/-- A carry is shifted back. -/
theorem shiftToTargetExponent_carry {e : ℤ} (least : -1074 ≤ e) :
    shiftToTargetExponent .binary64 (2 ^ 53) e .exact = (⟨2 ^ 52, false, false⟩, e + 1) := by
  have amount : (Format.binary64.targetExponent (totalExponent (2 ^ 53) e) - e).toNat = 1 := by
    simp only [Format.targetExponent, totalExponent, Nat.log2_two_pow, Format.minExponent,
      Format.mantissaBits]
    omega
  simp only [shiftToTargetExponent, shiftToExponent, amount, ExtendedMantissa.ofMantissaAndAccuracy]
  rfl

theorem mantissa_ofMantissaAndAccuracy (m : ℕ) (a : Accuracy) :
    (ExtendedMantissa.ofMantissaAndAccuracy m a).mantissa = m := by
  cases a with
  | exact => rfl
  | inexact order => cases order <;> rfl

theorem targetExponent_eq (m : ℕ) (e : ℤ) :
    Format.binary64.targetExponent (totalExponent m e) = max (m.log2 + e - 52) (-1074) := by
  simp only [Format.targetExponent, totalExponent, Format.minExponent, Format.mantissaBits]
  omega

theorem Fits.lt_two_pow {n : ℕ} {p : ℤ} (fits : Fits n p) : n < 2 ^ 53 := by
  rcases fits with ⟨narrow, -⟩ | ⟨wide, -, -⟩
  · omega
  · rcases Nat.eq_zero_or_pos n with rfl | pos
    · decide
    · exact (significand_bounds pos wide).2

theorem Fits.least {n : ℕ} {p : ℤ} (fits : Fits n p) : -1074 ≤ p := by
  rcases fits with ⟨-, rfl⟩ | ⟨-, least, -⟩
  · exact Int.le_refl _
  · exact least

theorem Fits.most {n : ℕ} {p : ℤ} (fits : Fits n p) : p ≤ 971 := by
  rcases fits with ⟨-, rfl⟩ | ⟨-, -, most⟩ <;> omega

section

variable {m : ℕ} {e : ℤ} {a : Accuracy} {x : ℚ} {n : ℕ} {p : ℤ}

/-- A quantity is as large as its significand says. -/
theorem Remembers.lt_zpow (h : Remembers (.ofMantissaAndAccuracy m a) x) :
    x * 2 ^ e < 2 ^ (m.log2 + 1 + e) := by
  have scale : (0 : ℚ) < 2 ^ e := by positivity
  have below := h.lt_mantissa
  rw [mantissa_ofMantissaAndAccuracy] at below
  have width : (m : ℚ) + 1 ≤ 2 ^ (m.log2 + 1) := by
    exact_mod_cast Nat.succ_le_of_lt (Nat.lt_log2_self (n := m))
  rw [zpow_add₀ two_ne_zero]
  refine mul_lt_mul_of_pos_right ?_ scale
  exact_mod_cast below.trans_le width

theorem Remembers.zpow_le (h : Remembers (.ofMantissaAndAccuracy m a) x) (some : m ≠ 0) :
    2 ^ (m.log2 + e) ≤ x * 2 ^ e := by
  have scale : (0 : ℚ) < 2 ^ e := by positivity
  have above := h.mantissa_le
  rw [mantissa_ofMantissaAndAccuracy] at above
  have width : (2 : ℚ) ^ m.log2 ≤ m := by exact_mod_cast Nat.log2_self_le some
  rw [zpow_add₀ two_ne_zero]
  refine mul_le_mul_of_nonneg_right ?_ scale.le
  exact_mod_cast width.trans above

/-- A quantity is cut where the number that it is near to ends, or one place before if it is below the
number and this is a power of two. -/
theorem target_of_near (h : Remembers (.ofMantissaAndAccuracy m a) x)
    (enough : e ≤ max (m.log2 + e - 52) (-1074)) (fits : Fits n p) (near : Near n p (x * 2 ^ e)) :
    max (m.log2 + e - 52) (-1074) = p ∨
      max (m.log2 + e - 52) (-1074) = p - 1 ∧ n = 2 ^ 52 := by
  have narrow := fits.lt_two_pow
  have least := fits.least
  have scale : (0 : ℚ) < 2 ^ p := by positivity
  have grow : ∀ {i j : ℤ}, i ≤ j → (2 : ℚ) ^ i ≤ 2 ^ j := fun h => zpow_le_zpow_right₀ one_le_two h
  rcases lt_trichotomy (max (m.log2 + e - 52) (-1074)) p with less | same | more
  · right
    have wide : n.log2 = 52 := by
      rcases fits with ⟨-, rfl⟩ | ⟨wide, -, -⟩
      · omega
      · exact wide
    have full : 2 ^ 52 ≤ n := (Nat.le_log2 (by rintro rfl; simp at wide)).mp wide.ge
    have least : ∀ k : ℕ, m.log2 + 1 + e ≤ k + p → (n : ℚ) - gapBelow n p < 2 ^ k := by
      intro k below
      have cut := (near.least.trans_lt h.lt_zpow).trans_le (grow below)
      rw [zpow_add₀ two_ne_zero, zpow_natCast] at cut
      exact lt_of_mul_lt_mul_right cut scale.le
    have power : n = 2 ^ 52 := by
      by_contra other
      have cut := least 52 (by omega)
      rw [gapBelow, if_neg (fun h => other h.1)] at cut
      have more : (2 ^ 52 + 1 : ℚ) ≤ n := by exact_mod_cast lt_of_le_of_ne full (Ne.symm other)
      linarith
    refine ⟨?_, power⟩
    by_contra other
    have cut := least 51 (by omega)
    have gap := gapBelow_le n p
    rw [power] at cut gap
    norm_num at cut gap
    linarith
  · exact .inl same
  · have some : m ≠ 0 := by
      rintro rfl
      simp only [Nat.log2_zero, Nat.cast_zero, zero_add] at more enough
      omega
    have cut := ((grow (by omega : (53 : ℕ) + p ≤ m.log2 + e)).trans (h.zpow_le some)).trans near.most
    rw [zpow_add₀ two_ne_zero, zpow_natCast] at cut
    have wide := le_of_mul_le_mul_right cut scale
    have less : (n : ℚ) + 1 ≤ 2 ^ 53 := by exact_mod_cast narrow
    linarith

/-- A quantity is rounded to the number that it is near to. -/
theorem roundWithAccuracy_near (h : Remembers (.ofMantissaAndAccuracy m a) x)
    (enough : e ≤ max (m.log2 + e - 52) (-1074)) (fits : Fits n p) (pos : 0 < n)
    (near : Near n p (x * 2 ^ e)) (s : Sign) :
    roundWithAccuracy .binary64 s m e a = .finite s n p pos := by
  obtain ⟨k, place⟩ := Int.le.dest enough
  have first : shiftToTargetExponent .binary64 m e a =
      (ExtendedMantissa.ofMantissaAndAccuracy m a >>> k, max (m.log2 + e - 52) (-1074)) := by
    have amount : (max ((m.log2 : ℤ) + e - 52) (-1074) - e).toNat = k := by omega
    simp only [shiftToTargetExponent, shiftToExponent, targetExponent_eq, amount, place]
  have cut := h.shiftRight k
  -- The quantity in units of the place to which it is cut.
  have units : x * 2 ^ e = x / 2 ^ k * 2 ^ max ((m.log2 : ℤ) + e - 52) (-1074) := by
    rw [← place, zpow_add₀ two_ne_zero, zpow_natCast]
    field_simp
  rcases target_of_near h enough fits near with same | ⟨before, power⟩
  · rw [units, same] at near
    simp only [roundWithAccuracy, first, same, cut.roundedMantissa near.rounds,
      shiftToTargetExponent_narrow fits.lt_two_pow fits.least]
    rw [dif_neg pos.ne']
  · -- The quantity is less than a power of two, and rounding carries it there.
    have scale : (0 : ℚ) < 2 ^ (p - 1) := by positivity
    have twice : (2 : ℚ) ^ p = 2 * 2 ^ (p - 1) := by
      rw [← zpow_one_add₀ two_ne_zero]
      congr 1
      omega
    have below : x / 2 ^ k < 2 ^ 53 := by
      have small := (h.lt_zpow (e := e)).trans_le
        (zpow_le_zpow_right₀ one_le_two (by omega : (m.log2 : ℤ) + 1 + e ≤ (53 : ℕ) + (p - 1)))
      rw [units, before, zpow_add₀ two_ne_zero, zpow_natCast] at small
      exact lt_of_mul_lt_mul_right small scale.le
    rw [units, before, power] at near
    have gap : gapBelow (2 ^ 52) p = 1 / 4 := if_pos ⟨rfl, by omega⟩
    have above : (2 ^ 53 : ℚ) - 1 / 2 ≤ x / 2 ^ k := by
      have least := near.least
      rw [twice, ← mul_assoc, gap] at least
      have := le_of_mul_le_mul_right least scale
      push_cast at this
      linarith
    have rounds : Rounds (x / 2 ^ k) (2 ^ 53) := by
      refine ⟨by push_cast; exact above, by push_cast; linarith, fun odd => ?_⟩
      norm_num at odd
    have again := shiftToTargetExponent_carry (e := p - 1) (by omega)
    rw [sub_add_cancel] at again
    simp only [roundWithAccuracy, first, before, cut.roundedMantissa rounds, again, power]
    rw [dif_neg (by norm_num)]

end

/-! ## 3. Products and quotients -/

section

variable {m n k : ℕ} {e f p : ℤ} {hm : 0 < m} {hn : 0 < n}

/-- A product that is wide enough is the number that it is near to. -/
theorem mul_near (wide : 52 ≤ (m * n).log2) (fits : Fits k p) (pos : 0 < k)
    (near : Near k p (m * n * 2 ^ (e + f))) :
    UnpackedFloat.mul .binary64 (.finite .positive m e hm) (.finite .positive n f hn) =
      .finite .positive k p pos := by
  have remembers := remembers_exact (m * n)
  push_cast at remembers
  exact roundWithAccuracy_near remembers (by omega) fits pos near .positive

/-- A quotient is rounded once. -/
theorem div_eq_round : ∃ k t a x, Remembers (.ofMantissaAndAccuracy k a) x ∧
    t ≤ max ((k.log2 : ℤ) + t - 52) (-1074) ∧ x * 2 ^ t = m / n * 2 ^ (e - f) ∧
    UnpackedFloat.div .binary64 (.finite .positive m e hm) (.finite .positive n f hn) =
      roundWithAccuracy .binary64 .positive k t a := by
  have size : Format.binary64.targetExponent (totalExponent m e - totalExponent n f) =
      max (m.log2 + e - (n.log2 + f) - 53) (-1074) := by
    simp only [Format.targetExponent, totalExponent, Format.minExponent, Format.mantissaBits]
    omega
  simp only [UnpackedFloat.div, divCore, size]
  generalize ht : min (e - f) (max ((m.log2 : ℤ) + e - (n.log2 + f) - 53) (-1074)) = t
  obtain ⟨shift, place⟩ : ∃ shift : ℕ, e - f - t = shift := ⟨(e - f - t).toNat, by omega⟩
  rw [place, Int.toNat_natCast, Nat.shiftLeft_eq]
  have den_pos : (0 : ℚ) < n := by exact_mod_cast hn
  have remembers := remembers_fraction (Nat.mod_lt (m * 2 ^ shift) hn) (m * 2 ^ shift / n)
  have whole : ((m * 2 ^ shift / n : ℕ) : ℚ) + (m * 2 ^ shift % n : ℕ) / n = m / n * 2 ^ shift := by
    have split : ((n * (m * 2 ^ shift / n) + m * 2 ^ shift % n : ℕ) : ℚ) = (m * 2 ^ shift : ℕ) :=
      congrArg _ (Nat.div_add_mod _ _)
    push_cast at split
    field_simp
    linarith
  rw [whole] at remembers
  refine ⟨_, t, _, _, remembers, ?_, ?_, rfl⟩
  · -- The significand was shifted so far that the quotient has the full width.
    by_cases low : t ≤ -1074
    · omega
    · have wide : 2 ^ 52 ≤ m * 2 ^ shift / n := by
        rw [Nat.le_div_iff_mul_le hn]
        calc 2 ^ 52 * n ≤ 2 ^ 52 * 2 ^ (n.log2 + 1) :=
              Nat.mul_le_mul_left _ (Nat.lt_log2_self).le
          _ = 2 ^ (n.log2 + 53) := by rw [← Nat.pow_add]; congr 1; omega
          _ ≤ 2 ^ (m.log2 + shift) := Nat.pow_le_pow_right (by decide) (by omega)
          _ = 2 ^ m.log2 * 2 ^ shift := Nat.pow_add ..
          _ ≤ m * 2 ^ shift := Nat.mul_le_mul_right _ (Nat.log2_self_le hm.ne')
      have log := (Nat.le_log2 (Nat.ne_of_gt ((Nat.two_pow_pos 52).trans_le wide))).mpr wide
      omega
  · rw [mul_assoc, ← zpow_natCast, ← zpow_add₀ two_ne_zero]
    congr 2
    omega

/-- A quotient is the number that it is near to. -/
theorem div_near (fits : Fits k p) (pos : 0 < k) (near : Near k p (m / n * 2 ^ (e - f))) :
    UnpackedFloat.div .binary64 (.finite .positive m e hm) (.finite .positive n f hn) =
      .finite .positive k p pos := by
  obtain ⟨_, t, a, x, remembers, enough, same, round⟩ := @div_eq_round m n e f hm hn
  rw [round]
  exact roundWithAccuracy_near remembers enough fits pos (by rwa [same]) .positive

end

/-! ## 4. Decimals -/

/-- An unpacked number of the full width that is a natural number. -/
def isWideNat (n : ℕ) : UnpackedFloat → Bool
  | .finite .positive m e _ => 52 ≤ m.log2 && m * 2 ^ e.toNat == n * 2 ^ (-e).toNat
  | _ => false

theorem isWideNat_powerOfTen : ∀ k : Fin 23,
    isWideNat (10 ^ k.val) (Float.exactlyRepresentablePowersOfTen[k]).toModel.unpack = true := by
  decide

/-- The first powers of ten are numbers. -/
theorem unpack_powerOfTen {k : ℕ} (small : k < 23) : ∃ m e pos,
    (Float.exactlyRepresentablePowersOfTen[k]).toModel.unpack = .finite .positive m e pos ∧
      (m : ℚ) * 2 ^ e = 10 ^ k ∧ 52 ≤ m.log2 := by
  have wide := isWideNat_powerOfTen ⟨k, small⟩
  simp only [Fin.getElem_fin] at wide
  unfold isWideNat at wide
  split at wide
  · next m e pos form =>
    rw [Bool.and_eq_true, decide_eq_true_eq, beq_iff_eq] at wide
    refine ⟨m, e, pos, form, ?_, wide.1⟩
    have same : (m : ℚ) * 2 ^ e.toNat = 10 ^ k * 2 ^ (-e).toNat := by exact_mod_cast wide.2
    rcases Int.le_total 0 e with up | down
    · have none : (-e).toNat = 0 := by omega
      rwa [none, pow_zero, Rat.mul_one, ← zpow_natCast (2 : ℚ), Int.toNat_of_nonneg up] at same
    · have none : e.toNat = 0 := by omega
      rw [none, pow_zero, Rat.mul_one, ← zpow_natCast (2 : ℚ), Int.toNat_of_nonneg (by omega)] at same
      rw [same, mul_assoc, ← zpow_add₀ two_ne_zero]
      simp
  · cases wide

/-- A natural number that fits into a significand is a number. -/
theorem unpack_digits {d : ℕ} (pos : 0 < d) (small : d < 2 ^ 53) : ∃ m e some,
    d.toUInt64.toFloat.toModel.unpack = .finite .positive m e some ∧ (m : ℚ) * 2 ^ e = d := by
  have less : d.log2 < 53 := (Nat.log2_lt pos.ne').mpr small
  obtain ⟨s, width⟩ : ∃ s, d.log2 + s = 52 := ⟨52 - d.log2, by omega⟩
  refine ⟨_, _, _, unpack_toFloat pos width, ?_⟩
  push_cast
  rw [mul_assoc, ← zpow_natCast, ← zpow_add₀ two_ne_zero]
  simp

theorem ofScientific_eq_mul {d k : ℕ} (some : 0 < d) (bound : k ≤ 2 ^ 11) :
    UnpackedFloat.ofScientific .binary64 d (Int.ofNat k) =
      UnpackedFloat.mul .binary64
        (.finite .positive (d * 2 ^ 53) (-53) (Nat.mul_pos some (Nat.two_pow_pos 53)))
        (.finite .positive (10 ^ k) 0 (Nat.pow_pos (by decide))) := by
  have below : ¬ (Int.ofNat k > 2 ^ Format.binary64.exponentBits) := by
    change ¬ ((k : ℤ) > 2048)
    omega
  have above : ¬ (Int.ofNat k < -((2 ^ Format.binary64.exponentBits : ℤ) + d.log2)) := by
    change ¬ ((k : ℤ) < -((2048 : ℤ) + d.log2))
    omega
  have whole : (0 : ℤ) ≤ Int.ofNat k := Int.natCast_nonneg k
  have shifted : d <<< Format.binary64.mantissaBits = d * 2 ^ 53 := Nat.shiftLeft_eq ..
  rw [UnpackedFloat.ofScientific, dif_neg some.ne', if_neg below, if_neg above, if_pos whole]
  simp only [shifted]
  rfl

theorem ofScientific_eq_div {d k : ℕ} (some : 0 < d) (behind : 0 < k)
    (bound : k ≤ 2 ^ 11 + d.log2) :
    UnpackedFloat.ofScientific .binary64 d (Int.negOfNat k) =
      UnpackedFloat.div .binary64 (.finite .positive d 0 some)
        (.finite .positive (10 ^ k) 0 (Nat.pow_pos (by decide))) := by
  have exponent : Int.negOfNat k = -(k : ℤ) := Int.negOfNat_eq
  have below : ¬ (-(k : ℤ) > 2 ^ Format.binary64.exponentBits) := by
    change ¬ (-(k : ℤ) > 2048)
    omega
  have above : ¬ (-(k : ℤ) < -((2 ^ Format.binary64.exponentBits : ℤ) + d.log2)) := by
    change ¬ (-(k : ℤ) < -((2048 : ℤ) + d.log2))
    omega
  have size : (-(-(k : ℤ))).toNat = k := by omega
  rw [exponent, UnpackedFloat.ofScientific, dif_neg some.ne', if_neg below, if_neg above,
    if_neg (by omega)]
  simp only [size]

section

variable {d k n : ℕ} {p : ℤ} (some : 0 < d) (fits : Fits n p) (pos : 0 < n)
include some fits

/-- A decimal without places is read as the number that it is near to. -/
theorem ofScientific_whole (bound : k ≤ 2 ^ 11) (near : Near n p (d * 10 ^ k)) :
    Float.ofScientific d false k = .ofModel (Float.Model.pack (.finite .positive n p pos)) := by
  unfold Float.ofScientific
  split
  · next fast =>
    obtain ⟨m, e, hm, left, size⟩ := unpack_digits some fast.1
    obtain ⟨m', e', hm', right, size', wide⟩ := unpack_powerOfTen (Nat.lt_succ_of_le fast.2)
    have product : (m : ℚ) * m' * 2 ^ (e + e') = d * 10 ^ k := by
      rw [← size, ← size', zpow_add₀ two_ne_zero]
      ring
    have wider : 52 ≤ (m * m').log2 := by
      rw [Nat.le_log2 (Nat.mul_pos hm hm').ne']
      exact ((Nat.le_log2 hm'.ne').mp wide).trans (Nat.le_mul_of_pos_left m' hm)
    refine congrArg (fun u => Float.ofModel (Float.Model.pack u)) ?_
    exact (congrArg₂ (UnpackedFloat.mul .binary64) left right).trans
      (mul_near wider fits pos (by rwa [product]))
  · refine congrArg (fun u => Float.ofModel (Float.Model.pack u)) ?_
    have scaled : (d * 2 ^ 53 : ℕ) * (10 ^ k : ℕ) * (2 : ℚ) ^ (-53 + 0 : ℤ) = d * 10 ^ k := by
      push_cast
      norm_num
      ring
    refine (ofScientific_eq_mul some bound).trans (mul_near ?_ fits pos (by rwa [scaled]))
    rw [Nat.le_log2 (by positivity)]
    calc 2 ^ 52 ≤ d * 2 ^ 53 := by omega
      _ ≤ d * 2 ^ 53 * 10 ^ k := Nat.le_mul_of_pos_right _ (by positivity)

/-- A decimal with places is read as the number that it is near to. -/
theorem ofScientific_places (behind : 0 < k) (bound : k ≤ 2 ^ 11 + d.log2) (near : Near n p (d / 10 ^ k)) :
    Float.ofScientific d true k = .ofModel (Float.Model.pack (.finite .positive n p pos)) := by
  unfold Float.ofScientific
  split
  · next fast =>
    obtain ⟨m, e, hm, left, size⟩ := unpack_digits some fast.1
    obtain ⟨m', e', hm', right, size', -⟩ := unpack_powerOfTen (Nat.lt_succ_of_le fast.2)
    have quotient : (m : ℚ) / m' * 2 ^ (e - e') = d / 10 ^ k := by
      rw [← size, ← size', zpow_sub₀ two_ne_zero]
      field_simp
    refine congrArg (fun u => Float.ofModel (Float.Model.pack u)) ?_
    exact (congrArg₂ (UnpackedFloat.div .binary64) left right).trans
      (div_near fits pos (by rwa [quotient]))
  · refine congrArg (fun u => Float.ofModel (Float.Model.pack u)) ?_
    have same : (d : ℚ) / (10 ^ k : ℕ) * 2 ^ ((0 : ℤ) - 0) = d / 10 ^ k := by simp
    exact (ofScientific_eq_div some behind bound).trans (div_near fits pos (by rwa [same]))

end

/-! ## 5. Numbers from decimals -/

/-- A finite number that is not zero fits. -/
theorem fits_of_parts {x : Float} {negative : Bool} {m : ℕ} {p : ℤ}
    (h : parts x = .finite negative m p) : Fits m p := by
  obtain ⟨-, finite, ⟨-, rfl, rfl⟩ | ⟨normal, rfl, rfl⟩⟩ := parts_eq_finite h
  · exact .inl ⟨Nat.mod_lt _ (by decide), rfl⟩
  · have field : x.toBits.toNat / 2 ^ 52 % 2 ^ 11 < 2 ^ 11 := Nat.mod_lt _ (by decide)
    have fraction : x.toBits.toNat % 2 ^ 52 < 2 ^ 52 := Nat.mod_lt _ (by decide)
    refine .inr ⟨(Nat.log2_eq_iff (by omega)).mpr ⟨by omega, by omega⟩, by omega, by omega⟩

/-- A number that fits is packed with its parts. -/
theorem parts_pack_of_fits {m : ℕ} {e : ℤ} (fits : Fits m e) (pos : 0 < m) (s : Sign) :
    parts (.ofModel (Float.Model.pack (.finite s m e pos))) =
      .finite (s.toBitVec.toNat == 1) m e := by
  rcases fits with ⟨narrow, rfl⟩ | ⟨wide, least, most⟩
  · have bits : (Float.ofModel (Float.Model.pack (.finite s m (-1074) pos))).toBits.toNat =
        (s.toBitVec.toNat * 2 ^ 11 + 0) * 2 ^ 52 + m := by
      change (UnpackedFloat.pack .binary64 (.finite s m (-1074) pos)).toNat = _
      have field : (BitVec.ofNat 52 m).toNat = m := by
        rw [BitVec.toNat_ofNat, Nat.mod_eq_of_lt narrow]
      rw [pack_narrow pos narrow, toNat_packComponents, field]
      rfl
    rw [parts_of_bits bits (by omega) narrow, if_pos rfl]
  · have biased : e + 1075 = ((e + 1075).toNat : Int) := by omega
    exact parts_pack pos wide biased (by omega) (by omega) s

/-- How large and how small a quantity near to a number can be. -/
theorem Near.bounds {n : ℕ} {p : ℤ} {q : ℚ} (near : Near n p q) (fits : Fits n p) (pos : 0 < n) :
    (2 : ℚ) ^ (-1075 : ℤ) ≤ q ∧ q < 2 ^ (1024 : ℤ) := by
  have grow : ∀ {i j : ℤ}, i ≤ j → (2 : ℚ) ^ i ≤ 2 ^ j := fun h => zpow_le_zpow_right₀ one_le_two h
  constructor
  · have gap := gapBelow_le n p
    have one : (1 : ℚ) ≤ n := by exact_mod_cast pos
    calc (2 : ℚ) ^ (-1075 : ℤ) = 2 ^ (-1 : ℤ) * 2 ^ (-1074 : ℤ) := by
          rw [← zpow_add₀ two_ne_zero]
          congr 1
      _ ≤ (n - gapBelow n p) * 2 ^ p :=
        mul_le_mul (by norm_num; linarith) (grow fits.least) (by positivity) (by linarith)
      _ ≤ q := near.least
  · have narrow : (n : ℚ) + 1 ≤ 2 ^ (53 : ℤ) := by exact_mod_cast fits.lt_two_pow
    have scale : (0 : ℚ) < 2 ^ p := by positivity
    calc q ≤ (n + 1 / 2) * 2 ^ p := near.most
      _ < 2 ^ (53 : ℤ) * 2 ^ p := mul_lt_mul_of_pos_right (by linarith) scale
      _ ≤ 2 ^ (53 : ℤ) * 2 ^ (971 : ℤ) := mul_le_mul_of_nonneg_left (grow fits.most) (by positivity)
      _ = 2 ^ (1024 : ℤ) := by
        rw [← zpow_add₀ two_ne_zero]
        congr 1

/-- Ten thousand is more than the thirteenth power of two. -/
theorem two_pow_lt {k : ℕ} (some : 0 < k) : (2 : ℚ) ^ (13 * k) < 10 ^ (4 * k) := by
  rw [pow_mul, pow_mul]
  exact pow_lt_pow_left₀ (by norm_num) (by positivity) some.ne'

/-- The size of a decimal that is near to a number leaves its point within bounds. -/
theorem Near.point {d : ℕ} {k : ℤ} {n : ℕ} {p : ℤ} (near : Near n p (d * 10 ^ k)) (fits : Fits n p)
    (pos : 0 < n) (some : 0 < d) :
    -400 < k + (digitList d).length ∧ k + (digitList d).length < 400 := by
  obtain ⟨above, below⟩ := near.bounds fits pos
  have first : (10 : ℚ) ^ (digitList d).length ≤ 10 * d := by
    exact_mod_cast pow_length_digitList_le some
  have last : (d : ℚ) < 10 ^ (digitList d).length := by exact_mod_cast lt_pow_length_digitList d
  have scale : (0 : ℚ) < 10 ^ k := by positivity
  have order : ∀ {i j : ℤ}, (10 : ℚ) ^ i < 10 ^ j → i < j := fun h =>
    (zpow_lt_zpow_iff_right₀ (by norm_num)).mp h
  have point : (10 : ℚ) ^ (k + (digitList d).length) = 10 ^ (digitList d).length * 10 ^ k := by
    rw [add_comm, zpow_add₀ (by norm_num), zpow_natCast]
  constructor
  · apply order
    rw [point]
    calc (10 : ℚ) ^ (-400 : ℤ) ≤ 10 ^ (-(332 : ℕ) : ℤ) :=
          zpow_le_zpow_right₀ (by norm_num) (by norm_num)
      _ = (10 ^ (4 * 83))⁻¹ := by rw [zpow_neg, zpow_natCast]
      _ < (2 ^ (13 * 83))⁻¹ := by
          rw [inv_lt_inv₀ (by positivity) (by positivity)]
          exact two_pow_lt (by norm_num)
      _ = 2 ^ (-(1079 : ℕ) : ℤ) := by rw [zpow_neg, zpow_natCast]
      _ ≤ 2 ^ (-1075 : ℤ) := zpow_le_zpow_right₀ one_le_two (by norm_num)
      _ ≤ d * 10 ^ k := above
      _ < 10 ^ (digitList d).length * 10 ^ k := mul_lt_mul_of_pos_right last scale
  · apply order
    rw [point]
    calc (10 : ℚ) ^ (digitList d).length * 10 ^ k ≤ 10 * d * 10 ^ k :=
          mul_le_mul_of_nonneg_right first scale.le
      _ = 10 * (d * 10 ^ k) := by ring
      _ < 10 * 2 ^ (1024 : ℤ) := by linarith
      _ ≤ 10 * 2 ^ ((13 * 79 : ℕ) : ℤ) :=
          mul_le_mul_of_nonneg_left (zpow_le_zpow_right₀ one_le_two (by norm_num)) (by norm_num)
      _ ≤ 10 * 10 ^ ((4 * 79 : ℕ) : ℤ) := by
          rw [zpow_natCast, zpow_natCast]
          exact mul_le_mul_of_nonneg_left (two_pow_lt (by norm_num)).le (by norm_num)
      _ = 10 ^ (1 + (316 : ℤ)) := by rw [zpow_one_add₀ (by norm_num)]; rfl
      _ ≤ 10 ^ (400 : ℤ) := zpow_le_zpow_right₀ (by norm_num) (by norm_num)

/-- A number has no more digits than bits. -/
theorem length_digitList_le_log2 {d : ℕ} (some : 0 < d) : (digitList d).length ≤ d.log2 + 1 := by
  by_contra more
  have less : 10 * d < 10 ^ (digitList d).length := by
    calc 10 * d < 10 * 2 ^ (d.log2 + 1) := by
          have := Nat.lt_log2_self (n := d)
          omega
      _ ≤ 10 * 10 ^ (d.log2 + 1) := Nat.mul_le_mul_left _ (Nat.pow_le_pow_left (by decide) _)
      _ = 10 ^ (d.log2 + 2) := by rw [Nat.pow_succ _ (d.log2 + 1), Nat.mul_comm]
      _ ≤ 10 ^ (digitList d).length := Nat.pow_le_pow_right (by decide) (by omega)
  exact absurd (pow_length_digitList_le some) (Nat.not_le.mpr less)

/-- A decimal that is near to a number is read as this number. -/
theorem ofDecimal_near {x : Float} {negative : Bool} {n : ℕ} {p : ℤ}
    (form : parts x = .finite negative n p) (pos : 0 < n) {d : ℕ} {k : ℤ} (some : 0 < d)
    (near : Near n p (d * 10 ^ k)) : ofDecimal negative d k = x := by
  have fits := fits_of_parts form
  obtain ⟨low, high⟩ := near.point fits pos some
  have width := length_digitList_le_log2 some
  have count : (Nat.toDigits 10 d).length = (digitList d).length := by simp [digitList]
  have size : (if d = 0 then 0.0
      else if k + Int.ofNat (Nat.toDigits 10 d).length > 400 then 1.0 / 0.0
      else if k + Int.ofNat (Nat.toDigits 10 d).length < -400 then 0.0
      else if k < 0 then Float.ofScientific d true k.natAbs
      else Float.ofScientific d false k.natAbs) =
      Float.ofModel (Float.Model.pack (.finite .positive n p pos)) := by
    simp only [count, Int.ofNat_eq_natCast]
    rw [if_neg some.ne', if_neg (by omega), if_neg (by omega)]
    split
    · next negative =>
      have places : (d : ℚ) * 10 ^ k = d / 10 ^ k.natAbs := by
        rw [div_eq_mul_inv, ← zpow_natCast, ← zpow_neg]
        congr 2
        omega
      rw [places] at near
      exact ofScientific_places some fits pos (by omega) (by omega) near
    · next whole =>
      have places : (d : ℚ) * 10 ^ k = d * 10 ^ k.natAbs := by
        rw [← zpow_natCast]
        congr 2
        omega
      rw [places] at near
      exact ofScientific_whole some fits pos (by omega) near
  unfold ofDecimal
  simp only [size]
  cases negative with
  | false => exact eq_of_parts (parts_pack_of_fits fits pos .positive) form
  | true =>
    refine eq_of_parts (Eq.trans ?_ (parts_pack_of_fits fits pos .negative)) form
    change parts (.ofModel (Float.Model.pack
      (UnpackedFloat.neg (Float.Model.pack (.finite .positive n p pos)).unpack))) = _
    rw [show (Float.Model.pack (.finite .positive n p pos)).unpack = .finite .positive n p pos from
      unpack_pack_of_fits fits pos .positive]
    rfl

end VisualNovel.Number
