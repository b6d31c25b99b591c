import VisualNovel.Proofs.Number.Nearest

/-!
The text of a number reads back.

The digits of a number are searched on decimal grids. The search begins with the decimal point in its
place (`decimalPoint_eq`), and on a grid of seventeen digits one of the two neighbours of a number is
near to it (`onGrid_seventeen`). So a decimal is found that is near to the number
(`near_shortest`), and such a decimal is read as the number.
-/

namespace VisualNovel.Number

/-! ## 1. Quotients -/

namespace Quotient

/-- The rational number of a quotient. -/
def value (v : Quotient) : ℚ := v.num / v.den

theorem den_ofBinary (m : ℕ) (p : ℤ) : 0 < (ofBinary m p).den := by
  unfold ofBinary
  split
  · exact Nat.one_pos
  · exact Nat.two_pow_pos _

theorem den_ofDecimal (d : ℕ) (k : ℤ) : 0 < (ofDecimal d k).den := by
  unfold ofDecimal
  split
  · exact Nat.one_pos
  · exact Nat.pow_pos (by decide)

theorem value_ofBinary (m : ℕ) (p : ℤ) : (ofBinary m p).value = m * 2 ^ p := by
  unfold ofBinary value
  split
  · next up =>
    obtain ⟨k, rfl⟩ := Int.eq_ofNat_of_zero_le up
    simp
  · next down =>
    obtain ⟨k, rfl⟩ : ∃ k : ℕ, p = -k := ⟨(-p).toNat, by omega⟩
    simp [div_eq_mul_inv]

theorem value_ofDecimal (d : ℕ) (k : ℤ) : (ofDecimal d k).value = d * 10 ^ k := by
  unfold ofDecimal value
  split
  · next up =>
    obtain ⟨j, rfl⟩ := Int.eq_ofNat_of_zero_le up
    simp
  · next down =>
    obtain ⟨j, rfl⟩ : ∃ j : ℕ, k = -j := ⟨(-k).toNat, by omega⟩
    simp [div_eq_mul_inv]

theorem less_iff {a b : Quotient} (ha : 0 < a.den) (hb : 0 < b.den) :
    a.less b = true ↔ a.value < b.value := by
  have ha' : (0 : ℚ) < a.den := by exact_mod_cast ha
  have hb' : (0 : ℚ) < b.den := by exact_mod_cast hb
  unfold less value
  rw [decide_eq_true_eq, div_lt_div_iff₀ ha' hb']
  exact_mod_cast Iff.rfl

end Quotient

/-- The interval of a number holds the quantities that are near to it. -/
theorem holds_iff {m : ℕ} {p : ℤ} (pos : 0 < m) {q : Quotient} (den : 0 < q.den) :
    (RoundingInterval.of m p).holds q = true ↔ Near m p q.value := by
  have low : (RoundingInterval.of m p).low.value = (m - gapBelow m p) * 2 ^ p ∧
      0 < (RoundingInterval.of m p).low.den := by
    unfold RoundingInterval.of gapBelow
    by_cases power : m = 2 ^ 52 ∧ -1074 < p
    · have chosen : (m == Nat.pow 2 52 && decide (p > -1074)) = true := by
        simpa using power
      simp only [chosen, if_true, if_pos power]
      refine ⟨?_, Quotient.den_ofBinary _ _⟩
      rw [Quotient.value_ofBinary, Nat.cast_sub (by omega), zpow_sub₀ two_ne_zero]
      push_cast
      ring
    · have chosen : (m == Nat.pow 2 52 && decide (p > -1074)) = false := by
        simpa using power
      simp only [chosen, Bool.false_eq_true, if_false, if_neg power]
      refine ⟨?_, Quotient.den_ofBinary _ _⟩
      rw [Quotient.value_ofBinary, Nat.cast_sub (by omega), zpow_sub₀ two_ne_zero]
      push_cast
      ring
  have high : (RoundingInterval.of m p).high.value = (m + 1 / 2) * 2 ^ p ∧
      0 < (RoundingInterval.of m p).high.den := by
    refine ⟨?_, Quotient.den_ofBinary _ _⟩
    change (Quotient.ofBinary (2 * m + 1) (p - 1)).value = _
    rw [Quotient.value_ofBinary, zpow_sub₀ two_ne_zero]
    push_cast
    ring
  have closed : (RoundingInterval.of m p).closed = (m % 2 == 0) := rfl
  have below := Quotient.less_iff den low.2
  have below' := Quotient.less_iff low.2 den
  have above := Quotient.less_iff high.2 den
  have above' := Quotient.less_iff den high.2
  rw [low.1] at below below'
  rw [high.1] at above above'
  unfold RoundingInterval.holds
  rw [closed]
  rcases Nat.mod_two_eq_zero_or_one m with even | odd
  · simp only [even, beq_self_eq_true, if_true, Bool.and_eq_true, Bool.not_eq_true', ← Bool.not_eq_true,
      below, above, not_lt]
    exact ⟨fun ⟨least, most⟩ => ⟨least, most, by omega⟩, fun near => ⟨near.least, near.most⟩⟩
  · have open' : (m % 2 == 0) = false := by simp [odd]
    simp only [open', Bool.false_eq_true, if_false, Bool.and_eq_true, below', above']
    exact ⟨fun ⟨least, most⟩ => ⟨least.le, most.le, fun _ => ⟨least, most⟩⟩,
      fun near => near.odd odd⟩

/-! ## 2. The decimal point -/

/-- The decimal point of a quantity is behind so many digits. -/
def HasPoint (q : ℚ) (t : ℤ) : Prop := (10 : ℚ) ^ (t - 1) ≤ q ∧ q < 10 ^ t

theorem less_ofDecimal_one {v : Quotient} (den : 0 < v.den) (t : ℤ) :
    v.less (.ofDecimal 1 t) = true ↔ v.value < 10 ^ t := by
  rw [Quotient.less_iff den (Quotient.den_ofDecimal 1 t), Quotient.value_ofDecimal]
  simp

/-- The search for the decimal point goes towards it. -/
theorem settlePoint_eq {v : Quotient} (den : 0 < v.den) {t : ℤ} (point : HasPoint v.value t)
    (fuel : ℕ) (p : ℤ) (near : |t - p| ≤ fuel) : settlePoint v fuel p = t := by
  have grow : ∀ {i j : ℤ}, i ≤ j → (10 : ℚ) ^ i ≤ 10 ^ j := fun h =>
    zpow_le_zpow_right₀ (by norm_num) h
  induction fuel generalizing p with
  | zero =>
    have same : t - p = 0 := abs_nonpos_iff.mp (by simpa using near)
    rw [settlePoint]
    omega
  | succ fuel ih =>
    obtain ⟨low, high⟩ := abs_le.mp near
    push_cast at low high
    unfold settlePoint
    rcases lt_trichotomy p t with behind | rfl | before
    · have reached : ¬ v.less (.ofDecimal 1 p) = true := by
        rw [less_ofDecimal_one den, not_lt]
        exact (grow (by omega)).trans point.1
      rw [if_pos (by simpa using reached)]
      exact ih (p + 1) (abs_le.mpr ⟨by omega, by omega⟩)
    · have inside : v.less (.ofDecimal 1 p) = true := (less_ofDecimal_one den p).mpr point.2
      have above : ¬ v.less (.ofDecimal 1 (p - 1)) = true := by
        rw [less_ofDecimal_one den, not_lt]
        exact point.1
      rw [if_neg (by simp [inside]), if_neg above]
    · have inside : v.less (.ofDecimal 1 (p - 1)) = true :=
        (less_ofDecimal_one den _).mpr (point.2.trans_le (grow (by omega)))
      have inside' : v.less (.ofDecimal 1 p) = true :=
        (less_ofDecimal_one den _).mpr (point.2.trans_le (grow (by omega)))
      rw [if_neg (by simp [inside']), if_pos inside]
      exact ih (p - 1) (abs_le.mpr ⟨by omega, by omega⟩)

/-- So many powers of two have so many digits, for numbers from one on. -/
theorem digits_of_power : ∀ n < 1100, 10 ^ (n * 30103 / 100000) ≤ 5 * 2 ^ n ∧
    2 ^ (n + 1) ≤ 10 ^ (n * 30103 / 100000 + 2) := by
  decide +kernel

/-- The same for numbers below one. -/
theorem digits_of_part : ∀ n < 1100, 2 ^ (n + 1) ≤ 10 ^ ((n * 30103 + 99999) / 100000 + 1) ∧
    10 ^ ((n * 30103 + 99999) / 100000) ≤ 50 * 2 ^ n := by
  decide +kernel

/-- Where the search for the decimal point begins, it is almost found. -/
theorem estimate_near {n : ℤ} (low : -1100 < n) (high : n < 1100) :
    (10 : ℚ) ^ (n * 30103 / 100000 - 1) ≤ 2 ^ (n - 1) ∧
      (2 : ℚ) ^ (n + 1) ≤ 10 ^ (n * 30103 / 100000 + 2) := by
  have ten : (10 : ℚ) ≠ 0 := by norm_num
  rcases Int.lt_or_le n 0 with below | above
  · obtain ⟨k, rfl⟩ : ∃ k : ℕ, n = -k := ⟨(-n).toNat, by omega⟩
    obtain ⟨first, last⟩ := digits_of_part k (by omega)
    have estimate : (-(k : ℤ)) * 30103 / 100000 = -((k * 30103 + 99999) / 100000 : ℕ) := by omega
    rw [estimate]
    generalize (k * 30103 + 99999) / 100000 = e at *
    have first' : (2 : ℚ) ^ (k + 1) ≤ 10 ^ (e + 1) := by exact_mod_cast first
    have last' : (10 : ℚ) ^ e ≤ 50 * 2 ^ k := by exact_mod_cast last
    constructor
    · rw [show -(e : ℤ) - 1 = -((e + 1 : ℕ) : ℤ) by push_cast; ring,
        show -(k : ℤ) - 1 = -((k + 1 : ℕ) : ℤ) by push_cast; ring, zpow_neg, zpow_neg, zpow_natCast,
        zpow_natCast]
      exact inv_anti₀ (by positivity) first'
    · rw [zpow_add₀ two_ne_zero, zpow_add₀ ten, zpow_neg, zpow_neg, zpow_natCast, zpow_natCast]
      rw [inv_mul_eq_div, inv_mul_eq_div, div_le_div_iff₀ (by positivity) (by positivity)]
      norm_num
      linarith
  · obtain ⟨k, rfl⟩ := Int.eq_ofNat_of_zero_le above
    obtain ⟨first, last⟩ := digits_of_power k (by omega)
    have estimate : (k : ℤ) * 30103 / 100000 = (k * 30103 / 100000 : ℕ) := by omega
    rw [estimate]
    generalize k * 30103 / 100000 = e at *
    have first' : (10 : ℚ) ^ e ≤ 5 * 2 ^ k := by exact_mod_cast first
    have last' : (2 : ℚ) ^ (k + 1) ≤ 10 ^ (e + 2) := by exact_mod_cast last
    constructor
    · rw [zpow_sub₀ two_ne_zero, zpow_sub₀ ten, zpow_natCast, zpow_natCast]
      norm_num
      linarith
    · exact_mod_cast last'

/-- The size of a quotient, from the sizes of its parts. -/
theorem Quotient.value_bounds {v : Quotient} (num : 0 < v.num) (den : 0 < v.den) :
    (2 : ℚ) ^ ((v.num.log2 : ℤ) - v.den.log2 - 1) ≤ v.value ∧
      v.value < 2 ^ ((v.num.log2 : ℤ) - v.den.log2 + 1) := by
  have num_low : (2 : ℚ) ^ v.num.log2 ≤ v.num := by exact_mod_cast Nat.log2_self_le num.ne'
  have num_high : (v.num : ℚ) < 2 ^ (v.num.log2 + 1) := by exact_mod_cast Nat.lt_log2_self
  have den_low : (2 : ℚ) ^ v.den.log2 ≤ v.den := by exact_mod_cast Nat.log2_self_le den.ne'
  have den_high : (v.den : ℚ) < 2 ^ (v.den.log2 + 1) := by exact_mod_cast Nat.lt_log2_self
  have den_pos : (0 : ℚ) < v.den := by exact_mod_cast den
  have two : (2 : ℚ) ≠ 0 := two_ne_zero
  unfold Quotient.value
  constructor
  · rw [zpow_sub₀ two, zpow_sub₀ two, zpow_natCast, zpow_natCast, div_div, zpow_one, ← pow_succ]
    exact div_le_div₀ (by positivity) num_low den_pos den_high.le
  · rw [zpow_add₀ two, zpow_sub₀ two, zpow_natCast, zpow_natCast, zpow_one, div_mul_eq_mul_div,
      ← pow_succ]
    exact div_lt_div₀ num_high den_low (by positivity) (by positivity)

/-- How much longer the numerator of a number is than its denominator. -/
theorem Quotient.log2_ofBinary {m : ℕ} (pos : 0 < m) (p : ℤ) :
    ((ofBinary m p).num.log2 : ℤ) - (ofBinary m p).den.log2 = m.log2 + p := by
  unfold ofBinary
  split
  · have log : (m * Nat.pow 2 p.toNat).log2 = m.log2 + p.toNat := log2_mul_two_pow pos _
    have one : Nat.log2 1 = 0 := by decide
    rw [log, one]
    omega
  · have log : (Nat.pow 2 (-p).toNat).log2 = (-p).toNat := Nat.log2_two_pow
    dsimp only
    rw [log]
    omega

/-- The search finds the decimal point of a number. -/
theorem decimalPoint_eq {m : ℕ} {p : ℤ} (fits : Fits m p) (pos : 0 < m) :
    HasPoint (m * 2 ^ p) (decimalPoint (.ofBinary m p)) := by
  have den := Quotient.den_ofBinary m p
  have value := Quotient.value_ofBinary m p
  have num : 0 < (Quotient.ofBinary m p).num := by
    unfold Quotient.ofBinary
    split
    · exact Nat.mul_pos pos (Nat.two_pow_pos _)
    · exact pos
  have positive : (0 : ℚ) < m * 2 ^ p := by
    have : (0 : ℚ) < m := by exact_mod_cast pos
    positivity
  obtain ⟨low, high⟩ := Quotient.value_bounds num den
  have size := Quotient.log2_ofBinary pos p
  have width : m.log2 < 53 := (Nat.log2_lt pos.ne').mpr fits.lt_two_pow
  have least := fits.least
  have most := fits.most
  -- The point that the size of the number has is near to the estimate.
  obtain ⟨t, point⟩ : ∃ t, HasPoint (m * 2 ^ p) t :=
    ⟨Int.log 10 ((m : ℚ) * 2 ^ p) + 1, by
      have := Int.zpow_log_le_self (b := 10) (by norm_num) positive
      simpa using this, by
      have := Int.lt_zpow_succ_log_self (b := 10) (by norm_num) ((m : ℚ) * 2 ^ p)
      simpa using this⟩
  have found : decimalPoint (.ofBinary m p) = t := by
    unfold decimalPoint
    simp only [Int.ofNat_eq_natCast]
    generalize ((Quotient.ofBinary m p).num.log2 : ℤ) - (Quotient.ofBinary m p).den.log2 = n at *
    obtain ⟨before, behind⟩ := estimate_near (n := n) (by omega) (by omega)
    rw [value] at low high
    have order : ∀ {i j : ℤ}, (10 : ℚ) ^ i < 10 ^ j → i < j := fun h =>
      (zpow_lt_zpow_iff_right₀ (by norm_num)).mp h
    have first := order ((before.trans low).trans_lt point.2)
    have last := order (point.1.trans_lt (high.trans_le behind))
    exact settlePoint_eq den (value ▸ point) 8 _ (abs_le.mpr ⟨by push_cast; omega, by push_cast; omega⟩)
  rwa [found]

/-! ## 3. The search for digits -/

/-- A quantity is between two neighbours on a grid. -/
theorem grid_bounds {v : Quotient} (den : 0 < v.den) (step : ℤ) :
    let scaled : Quotient :=
      if step ≥ 0 then ⟨v.num, v.den * Nat.pow 10 step.toNat⟩
      else ⟨v.num * Nat.pow 10 (-step).toNat, v.den⟩
    ((scaled.num / scaled.den : ℕ) : ℚ) * 10 ^ step ≤ v.value ∧
      v.value < ((scaled.num / scaled.den : ℕ) + 1) * 10 ^ step := by
  intro scaled
  have unit : (0 : ℚ) < 10 ^ step := by positivity
  have den' : 0 < scaled.den := by
    unfold scaled
    split
    · exact Nat.mul_pos den (Nat.pow_pos (by decide))
    · exact den
  have value : scaled.value * 10 ^ step = v.value := by
    have den_ne : (v.den : ℚ) ≠ 0 := by exact_mod_cast den.ne'
    unfold scaled Quotient.value
    split
    · next up =>
      obtain ⟨k, rfl⟩ := Int.eq_ofNat_of_zero_le up
      simp
      field_simp
    · next down =>
      obtain ⟨k, rfl⟩ : ∃ k : ℕ, step = -k := ⟨(-step).toNat, by omega⟩
      simp
      field_simp
  have den_pos : (0 : ℚ) < scaled.den := by exact_mod_cast den'
  rw [← value]
  constructor
  · refine mul_le_mul_of_nonneg_right ?_ unit.le
    exact Nat.cast_div_le
  · refine mul_lt_mul_of_pos_right ?_ unit
    rw [Quotient.value, div_lt_iff₀ den_pos]
    exact_mod_cast (Nat.div_lt_iff_lt_mul den').mp (Nat.lt_succ_self _)

/-- A quantity that is close enough is near to a number. -/
theorem near_of_close {m : ℕ} {p : ℤ} {q : ℚ} (above : (m - gapBelow m p) * 2 ^ p < q)
    (below : q < (m + 1 / 2) * 2 ^ p) : Near m p q :=
  ⟨above.le, below.le, fun _ => ⟨above, below⟩⟩

/-- Numbers of seventeen digits are closer than the neighbours of a number. -/
theorem gap_of_digits {m : ℕ} {p : ℤ} (fits : Fits m p) {unit : ℚ}
    (digits : 10 ^ 16 * unit ≤ m * 2 ^ p) : unit < 2 * gapBelow m p * 2 ^ p := by
  have narrow : (m : ℚ) + 1 ≤ 2 ^ 53 := by exact_mod_cast fits.lt_two_pow
  have enough : (m : ℚ) < 10 ^ 16 * (2 * gapBelow m p) := by
    unfold gapBelow
    split
    · next power =>
      rw [power.1]
      norm_num
    · norm_num at narrow
      linarith
  have : (m : ℚ) * 2 ^ p < 10 ^ 16 * (2 * gapBelow m p) * 2 ^ p :=
    mul_lt_mul_of_pos_right enough (by positivity)
  linarith

/-- On a grid of seventeen digits a neighbour of a number is near to it. -/
theorem onGrid_seventeen {m : ℕ} {p : ℤ} (fits : Fits m p) (pos : 0 < m) {point : ℤ}
    (inside : HasPoint (m * 2 ^ p) point) :
    onGrid (.ofBinary m p) (.of m p) point 17 ≠ none := by
  have bounds := grid_bounds (Quotient.den_ofBinary m p) (point - Int.ofNat 17)
  unfold onGrid
  extract_lets step scaled below rest belowHolds aboveHolds
  obtain ⟨low, high⟩ : (below : ℚ) * 10 ^ step ≤ m * 2 ^ p ∧
      m * 2 ^ p < (below + 1 : ℚ) * 10 ^ step := by
    rw [← Quotient.value_ofBinary]
    exact bounds
  have unit : (0 : ℚ) < 2 ^ p := by positivity
  have digits : 10 ^ 16 * 10 ^ step ≤ (m : ℚ) * 2 ^ p := by
    have same : (10 : ℚ) ^ (point - 1) = 10 ^ 16 * 10 ^ step := by
      rw [← zpow_natCast, ← zpow_add₀ (by norm_num)]
      congr 1
      simp only [step, Int.ofNat_eq_natCast]
      push_cast
      ring
    exact same ▸ inside.1
  have close := gap_of_digits fits digits
  have close' : (10 : ℚ) ^ step < 2 ^ p := by
    have half := gapBelow_le m p
    have : 2 * gapBelow m p * 2 ^ p ≤ 1 * 2 ^ p := mul_le_mul_of_nonneg_right (by linarith) unit.le
    linarith
  have found : belowHolds = true ∨ aboveHolds = true := by
    rcases le_or_gt (2 * ((m : ℚ) * 2 ^ p - below * 10 ^ step)) (10 ^ step) with nearer | farther
    · left
      have some : below ≠ 0 := by
        intro none
        have grid : (0 : ℚ) < 10 ^ step := by positivity
        rw [none] at high
        norm_num at high digits
        linarith
      refine Bool.and_eq_true_iff.mpr ⟨by simpa using some, ?_⟩
      rw [holds_iff pos (Quotient.den_ofDecimal _ _), Quotient.value_ofDecimal]
      refine near_of_close ?_ ?_
      · rw [sub_mul]
        linarith
      · rw [add_mul]
        linarith
    · right
      refine (holds_iff pos (Quotient.den_ofDecimal _ _)).mpr ?_
      rw [Quotient.value_ofDecimal]
      push_cast
      have gap : 0 < gapBelow m p * 2 ^ p := mul_pos (gapBelow_pos m p) unit
      refine near_of_close ?_ ?_
      · rw [sub_mul]
        linarith
      · rw [add_mul] at high ⊢
        rw [add_mul]
        linarith
  clear_value belowHolds aboveHolds
  cases belowHolds <;> cases aboveHolds
  · simp at found
  · simp
  · simp
  · simp only
    split
    · simp
    · split
      · simp
      · split <;> simp

/-- The search ends with digits that are found on a grid. -/
theorem searchGrids_found {v : Quotient} {i : RoundingInterval} {point : ℤ}
    (found : onGrid v i point 17 ≠ none) (fuel count : ℕ) (some : 0 < fuel)
    (last : count + fuel = 18) :
    ∃ c d, onGrid v i point c = Option.some d ∧
      searchGrids v i point fuel count =
        ⟨dropTrailingZeros (digitList d),
          point + (Int.ofNat (digitList d).length - Int.ofNat c)⟩ := by
  induction fuel generalizing count with
  | zero => cases some
  | succ fuel ih =>
    unfold searchGrids
    cases here : onGrid v i point count with
    | some d => exact ⟨count, d, here, rfl⟩
    | none =>
      refine ih (count + 1) ?_ (by omega)
      by_contra none
      have end' : count = 17 := by omega
      rw [end'] at here
      exact found here

/-! ## 4. Digits that read back -/

/-- The number that digits stand for. -/
def Digits.value (d : Digits) : ℚ :=
  Text.natOfDigits (digitText d.digits) * 10 ^ (d.point - d.digits.length)

theorem natOfDigits_append (a b : Text) :
    Text.natOfDigits (a ++ b) = Text.natOfDigits a * 10 ^ b.length + Text.natOfDigits b := by
  induction b using List.reverseRecOn with
  | nil => simp [Text.natOfDigits]
  | append_singleton b u ih =>
    unfold Text.natOfDigits at ih ⊢
    rw [← List.append_assoc, List.foldl_append, ih, List.foldl_append, List.length_append,
      List.foldl_cons, List.foldl_nil, List.foldl_cons, List.foldl_nil]
    simp only [List.length_singleton, Nat.pow_succ]
    ring

theorem natOfDigits_zeros (k : ℕ) : Text.natOfDigits (zeros k) = 0 := by
  induction k with
  | zero => rfl
  | succ k ih =>
    rw [zeros, List.replicate_succ', ← zeros, natOfDigits_append, ih]
    rfl

/-- Zeros that are dropped at the end only move the decimal point. -/
theorem natOfDigits_dropTrailingZeros (d : ℕ) :
    Text.natOfDigits (digitText (dropTrailingZeros (digitList d))) *
        10 ^ ((digitList d).length - (dropTrailingZeros (digitList d)).length) = d := by
  have all : digitText (digitList d) = digitText (dropTrailingZeros (digitList d)) ++
      zeros ((digitList d).length - (dropTrailingZeros (digitList d)).length) := by
    conv => lhs; rw [← dropTrailingZeros_append (digitList d)]
    simp [digitText, zeros, Nat.digitChar]
  have number := natOfDigits_ofNat d
  rw [← digitText_digitList, all, natOfDigits_append, natOfDigits_zeros] at number
  simpa [zeros] using number

theorem length_dropTrailingZeros_le (ds : List Nat) :
    (dropTrailingZeros ds).length ≤ ds.length := by
  have all := congrArg List.length (dropTrailingZeros_append ds)
  rw [List.length_append] at all
  omega

/-- The digits of a number stand for a quantity that is near to it. -/
theorem near_shortest {m : ℕ} {p : ℤ} (fits : Fits m p) (pos : 0 < m) :
    Near m p (shortest m p).value := by
  obtain ⟨c, d, found, same⟩ := searchGrids_found (onGrid_seventeen fits pos
    (decimalPoint_eq fits pos)) 17 1 (by decide) rfl
  obtain ⟨some, holds⟩ := onGrid_found found
  rw [holds_iff pos (Quotient.den_ofDecimal _ _), Quotient.value_ofDecimal] at holds
  have value : (shortest m p).value =
      d * 10 ^ (decimalPoint (.ofBinary m p) - Int.ofNat c) := by
    have shorter := length_dropTrailingZeros_le (digitList d)
    have number : (Text.natOfDigits (digitText (dropTrailingZeros (digitList d))) : ℚ) *
        10 ^ ((digitList d).length - (dropTrailingZeros (digitList d)).length) = d := by
      exact_mod_cast natOfDigits_dropTrailingZeros d
    rw [shortest, same, Digits.value, ← number, mul_assoc, ← zpow_natCast,
      ← zpow_add₀ (by norm_num)]
    congr 2
    simp only [Int.ofNat_eq_natCast]
    push_cast [shorter]
    ring
  rwa [value]

end VisualNovel.Number
