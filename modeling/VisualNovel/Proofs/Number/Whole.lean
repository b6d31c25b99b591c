import VisualNovel.Number.Numeral
import VisualNovel.Proofs.Number.Digits

/-!
Whole numbers.

A natural number below `2 ^ 53` fits into the significand of a number. No step of the conversion
rounds it, so its parts are known (`parts_ofNat`) and it is found again in its number
(`toNat?_ofNat`). Below `2 ^ 52` it is also the only whole number that rounds to its number. The
search for digits therefore ends on a grid of whole numbers, and the text of the number is the
decimal numeral (`text_ofNat`).
-/

namespace VisualNovel.Number

open Float.Model
open Float.Model.UnpackedFloat

/-! ## 1. Numbers that are not rounded -/

/-- A significand that was shifted left is shifted back without rounding. -/
theorem repeat_shiftRightOne (m n : Nat) :
    n.repeat ExtendedMantissa.shiftRightOne ⟨m * 2 ^ n, false, false⟩ = ⟨m, false, false⟩ := by
  induction n generalizing m with
  | zero => simp [Nat.repeat]
  | succ n ih =>
    have split : m * 2 ^ (n + 1) = m * 2 * 2 ^ n := by rw [Nat.pow_succ']; simp [Nat.mul_assoc]
    rw [split, Nat.repeat, ih]
    simp [ExtendedMantissa.shiftRightOne]

theorem log2_mul_two_pow {m : Nat} (pos : 0 < m) (n : Nat) : (m * 2 ^ n).log2 = m.log2 + n := by
  have scale : 0 < 2 ^ n := Nat.two_pow_pos n
  rw [Nat.log2_eq_iff (Nat.mul_pos pos scale |> Nat.ne_of_gt)]
  constructor
  · rw [Nat.pow_add]
    exact Nat.mul_le_mul_right _ (Nat.log2_self_le (Nat.ne_of_gt pos))
  · rw [show m.log2 + n + 1 = m.log2 + 1 + n by omega, Nat.pow_add]
    exact Nat.mul_lt_mul_of_pos_right Nat.lt_log2_self scale

/-- A number that fits into the full width is not rounded. -/
theorem roundWithAccuracy_exact {m : Nat} (wide : m.log2 = 52) (pos : 0 < m) (n : Nat) {e : Int}
    (large : -1074 ≤ e + n) (s : Sign) :
    roundWithAccuracy .binary64 s (m * 2 ^ n) e .exact = .finite s m (e + n) pos := by
  have first : shiftToTargetExponent .binary64 (m * 2 ^ n) e .exact =
      (⟨m, false, false⟩, e + n) := by
    have amount : (Format.binary64.targetExponent (totalExponent (m * 2 ^ n) e) - e).toNat = n := by
      simp only [Format.targetExponent, totalExponent, log2_mul_two_pow pos, wide,
        Format.minExponent, Format.mantissaBits]
      omega
    simp only [shiftToTargetExponent, shiftToExponent, amount,
      ExtendedMantissa.ofMantissaAndAccuracy]
    rw [show (⟨m * 2 ^ n, false, false⟩ : ExtendedMantissa) >>> n =
      n.repeat ExtendedMantissa.shiftRightOne ⟨m * 2 ^ n, false, false⟩ from rfl,
      repeat_shiftRightOne]
  have again : shiftToTargetExponent .binary64 m (e + n) .exact =
      (⟨m, false, false⟩, e + n) := by
    have amount :
        (Format.binary64.targetExponent (totalExponent m (e + n)) - (e + n)).toNat = 0 := by
      simp only [Format.targetExponent, totalExponent, wide, Format.minExponent,
        Format.mantissaBits]
      omega
    simp only [shiftToTargetExponent, shiftToExponent, amount,
      ExtendedMantissa.ofMantissaAndAccuracy]
    simp [HShiftRight.hShiftRight, Nat.repeat]
  simp only [roundWithAccuracy, first, ExtendedMantissa.roundedMantissa,
    ExtendedMantissa.accuracy, Accuracy.roundToNearestEven, again]
  rw [dif_neg (by omega)]

/-- A natural number is shifted to the full width. -/
theorem ofNat_eq {k s : Nat} (pos : 0 < k) (width : k.log2 + s = 52) :
    UnpackedFloat.ofNat .binary64 k =
      .finite .positive (k * 2 ^ s) (-s) (Nat.mul_pos pos (Nat.two_pow_pos s)) := by
  have sign : compare (k : Int) 0 = .gt := by
    rw [Int.compare_eq_gt]
    omega
  have target : Format.binary64.targetExponent (totalExponent k 0) = -s := by
    simp only [Format.targetExponent, totalExponent, Format.minExponent, Format.mantissaBits]
    omega
  have wide : (k * 2 ^ s).log2 = 52 := by rw [log2_mul_two_pow pos, width]
  have kept := roundWithAccuracy_exact wide (Nat.mul_pos pos (Nat.two_pow_pos s)) 0
    (e := 0 - (s : Int)) (by omega) .positive
  have amount : (0 - -(s : Int)).toNat = s := by omega
  simp only [UnpackedFloat.ofNat, UnpackedFloat.ofInt, UnpackedFloat.normalize, sign,
    UnpackedFloat.round, Int.toNat_natCast, target, decreaseExponent, Nat.shiftLeft_eq, amount]
  simpa using kept

/-! ## 2. Packing -/

theorem significand_bounds {m : Nat} (pos : 0 < m) (wide : m.log2 = 52) :
    2 ^ 52 ≤ m ∧ m < 2 ^ 53 :=
  (Nat.log2_eq_iff (Nat.ne_of_gt pos)).mp wide

/-- A number of the full width is packed with its exponent. -/
theorem pack_finite {s : Sign} {m : Nat} (pos : 0 < m) (wide : m.log2 = 52) {e : Int}
    {biased : Nat} (exponent : e + 1075 = biased) (high : biased < 2047) :
    UnpackedFloat.pack .binary64 (.finite s m e pos) =
      packComponents .binary64 s (BitVec.ofNat 11 biased) (BitVec.ofNat 52 m) := by
  have same : (e + (Format.binary64.exponentBias : Int) + ((52 : Nat) : Int)).toNat = biased := by
    simp only [Format.exponentBias]
    omega
  have inside : ¬ 2 ^ 11 ≤ biased + 1 := by omega
  simp only [UnpackedFloat.pack, same, wide, if_neg inside]
  rfl

theorem ofNat_significand {m : Nat} (least : 2 ^ 52 ≤ m) (most : m < 2 ^ 53) :
    (BitVec.ofNat 52 m).toNat = m - 2 ^ 52 := by
  rw [BitVec.toNat_ofNat]
  omega

/-- The bits of a number. -/
theorem toNat_packComponents (s : Sign) (exponent : BitVec 11) (mantissa : BitVec 52) :
    (packComponents .binary64 s exponent mantissa).toNat =
      (s.toBitVec.toNat * 2 ^ 11 + exponent.toNat) * 2 ^ 52 + mantissa.toNat := by
  unfold packComponents
  change (s.toBitVec ++ exponent ++ mantissa).toNat = _
  rw [BitVec.toNat_append, BitVec.toNat_append, ← Nat.shiftLeft_add_eq_or_of_lt mantissa.isLt,
    ← Nat.shiftLeft_add_eq_or_of_lt exponent.isLt, Nat.shiftLeft_eq, Nat.shiftLeft_eq]

theorem unpackSign_packComponents (s : Sign) (exponent : BitVec 11) (mantissa : BitVec 52) :
    unpackSign (packComponents .binary64 s exponent mantissa) = s.toBitVec := by
  have := exponent.isLt
  have := mantissa.isLt
  have := s.toBitVec.isLt
  have above : ((s.toBitVec.toNat * 2 ^ 11 + exponent.toNat) * 2 ^ 52 + mantissa.toNat) /
      2 ^ (52 + 11) % 2 ^ 1 = s.toBitVec.toNat := by omega
  apply BitVec.eq_of_toNat_eq
  rw [unpackSign, BitVec.toNat_cast, BitVec.extractLsb_toNat, toNat_packComponents,
    Nat.shiftRight_eq_div_pow]
  exact above

theorem ofBitVec_toBitVec (s : Sign) : Sign.ofBitVec s.toBitVec = s := by
  cases s <;> rfl

/-- A number of the full width comes back from its bits. -/
theorem unpack_pack {s : Sign} {m : Nat} (pos : 0 < m) (wide : m.log2 = 52) {e : Int}
    {biased : Nat} (exponent : e + 1075 = biased) (low : 0 < biased) (high : biased < 2047) :
    UnpackedFloat.unpack .binary64 (UnpackedFloat.pack .binary64 (.finite s m e pos)) =
      .finite s m e pos := by
  obtain ⟨least, most⟩ := significand_bounds pos wide
  have field : (BitVec.ofNat 11 biased).toNat = biased := by
    rw [BitVec.toNat_ofNat, Nat.mod_eq_of_lt (by omega)]
  have below : BitVec.ofNat 11 biased ≠ -1#11 := by
    intro same
    have value : biased = 2047 := field ▸ congrArg BitVec.toNat same
    omega
  have above : BitVec.ofNat 11 biased ≠ 0#11 := by
    intro same
    have value : biased = 0 := field ▸ congrArg BitVec.toNat same
    omega
  have bias : Format.binary64.exponentBias = 1023 := rfl
  have significand : (1#1 ++ BitVec.ofNat 52 m).toNat = m := by
    rw [BitVec.toNat_append, ← Nat.shiftLeft_add_eq_or_of_lt (BitVec.isLt _),
      ofNat_significand least most, Nat.shiftLeft_eq]
    change 1 * 2 ^ 52 + (m - 2 ^ 52) = m
    omega
  rw [pack_finite pos wide exponent high]
  simp only [UnpackedFloat.unpack, unpackMantissa_packComponents, unpackExponent_packComponents,
    unpackSign_packComponents, ofBitVec_toBitVec, if_neg below, if_neg above, field, bias,
    significand]
  congr 1
  omega

/-- The parts of a finite number are read off its bits. -/
theorem parts_of_bits {x : Float} {sign field fraction : Nat}
    (bits : x.toBits.toNat = (sign * 2 ^ 11 + field) * 2 ^ 52 + fraction)
    (finite : field < 2047) (short : fraction < 2 ^ 52) :
    parts x = if field = 0 then .finite (sign == 1) fraction (-1074)
      else .finite (sign == 1) (fraction + 2 ^ 52) (field - 1075) := by
  have first : ((sign * 2 ^ 11 + field) * 2 ^ 52 + fraction) / 2 ^ 63 = sign := by omega
  have second : ((sign * 2 ^ 11 + field) * 2 ^ 52 + fraction) / 2 ^ 52 % 2 ^ 11 = field := by omega
  have third : ((sign * 2 ^ 11 + field) * 2 ^ 52 + fraction) % 2 ^ 52 = fraction := by omega
  have below : (field == 2047) = false := beq_false_of_ne (by omega)
  simp only [parts, bits, Nat.pow_eq, first, second, third, below]
  simp

/-- The parts of a number of the full width. -/
theorem parts_pack {m : Nat} (pos : 0 < m) (wide : m.log2 = 52) {e : Int} {biased : Nat}
    (exponent : e + 1075 = biased) (low : 0 < biased) (high : biased < 2047) (s : Sign) :
    parts (.ofModel (Float.Model.pack (.finite s m e pos))) =
      .finite (s.toBitVec.toNat == 1) m e := by
  obtain ⟨least, most⟩ := significand_bounds pos wide
  have bits : (Float.ofModel (Float.Model.pack (.finite s m e pos))).toBits.toNat =
      (s.toBitVec.toNat * 2 ^ 11 + biased) * 2 ^ 52 + (m - 2 ^ 52) := by
    change (UnpackedFloat.pack .binary64 (.finite s m e pos)).toNat = _
    rw [pack_finite pos wide exponent high, toNat_packComponents, ofNat_significand least most,
      BitVec.toNat_ofNat, Nat.mod_eq_of_lt (by omega)]
  rw [parts_of_bits bits high (by omega), if_neg (by omega)]
  congr 1 <;> omega

/-! ## 3. Natural numbers -/

theorem unpack_one : (Float.ofBits 0x3FF0000000000000).toModel.unpack =
    .finite .positive (2 ^ 52) (-52) (Nat.two_pow_pos 52) := rfl

/-- A product with one is not rounded. -/
theorem mul_one {m : Nat} (pos : 0 < m) (wide : m.log2 = 52) {e : Int} (large : -1074 ≤ e) :
    UnpackedFloat.mul .binary64 (.finite .positive m e pos)
        (.finite .positive (2 ^ 52) (-52) (Nat.two_pow_pos 52)) = .finite .positive m e pos := by
  refine (roundWithAccuracy_exact wide pos 52 (e := e + -52) (by omega) .positive).trans ?_
  congr 1
  omega

/-- A natural number that is not too large becomes a number of the full width. -/
theorem unpack_toFloat {k s : Nat} (pos : 0 < k) (width : k.log2 + s = 52) :
    k.toUInt64.toFloat.toModel.unpack =
      .finite .positive (k * 2 ^ s) (-s) (Nat.mul_pos pos (Nat.two_pow_pos s)) := by
  have small : k < 2 ^ 53 := (Nat.log2_lt (Nat.ne_of_gt pos)).mp (by omega)
  have wide : (k * 2 ^ s).log2 = 52 := by rw [log2_mul_two_pow pos, width]
  have full := Nat.mul_pos pos (Nat.two_pow_pos s)
  have word : k.toUInt64.toNat = k := Nat.mod_eq_of_lt (Nat.lt_trans small (by decide))
  have converted : k.toUInt64.toFloat.toModel =
      Float.Model.pack (.finite .positive (k * 2 ^ s) (-s) full) := by
    change Float.Model.pack (UnpackedFloat.ofNat .binary64 k.toUInt64.toNat) = _
    rw [word, ofNat_eq pos width]
  have biased : -(s : Int) + 1075 = (1075 - s : Nat) := by omega
  rw [converted]
  exact unpack_pack full wide biased (by omega) (by omega)

/-- A natural number that is not too large is packed with the full width. -/
theorem ofNat_eq_pack {k s : Nat} (pos : 0 < k) (width : k.log2 + s = 52) :
    Float.ofNat k = .ofModel (Float.Model.pack
      (.finite .positive (k * 2 ^ s) (-s) (Nat.mul_pos pos (Nat.two_pow_pos s)))) := by
  have small : k < 2 ^ 53 := (Nat.log2_lt (Nat.ne_of_gt pos)).mp (by omega)
  have wide : (k * 2 ^ s).log2 = 52 := by rw [log2_mul_two_pow pos, width]
  have full := Nat.mul_pos pos (Nat.two_pow_pos s)
  have scaled : Float.ofNat k = k.toUInt64.toFloat * Float.ofBits 0x3FF0000000000000 := by
    change Float.ofScientific k false 0 = _
    rw [Float.ofScientific, dif_pos ⟨small, by decide⟩]
    rfl
  rw [scaled]
  change Float.ofModel (Float.Model.pack (UnpackedFloat.mul .binary64
    k.toUInt64.toFloat.toModel.unpack (Float.ofBits 0x3FF0000000000000).toModel.unpack)) = _
  rw [unpack_toFloat pos width, unpack_one, mul_one full wide (by omega)]

theorem parts_ofNat {k s : Nat} (pos : 0 < k) (width : k.log2 + s = 52) :
    parts (Float.ofNat k) = .finite false (k * 2 ^ s) (-s) := by
  have wide : (k * 2 ^ s).log2 = 52 := by rw [log2_mul_two_pow pos, width]
  have biased : -(s : Int) + 1075 = (1075 - s : Nat) := by omega
  rw [ofNat_eq_pack pos width]
  exact parts_pack _ wide biased (by omega) (by omega) .positive

/-- A natural number is found again in its number. -/
theorem toNat?_ofNat {k : Nat} (small : k < 2 ^ 53) : toNat? (Float.ofNat k) = some k := by
  rcases Nat.eq_zero_or_pos k with rfl | pos
  · decide +kernel
  · have less : k.log2 < 53 := (Nat.log2_lt (Nat.ne_of_gt pos)).mpr small
    obtain ⟨s, width⟩ : ∃ s, k.log2 + s = 52 := ⟨52 - k.log2, by omega⟩
    rw [toNat?, parts_ofNat pos width]
    rcases Nat.eq_zero_or_pos s with rfl | some
    · simp
    · have fraction : ¬ s = 0 := Nat.ne_of_gt some
      simp [fraction, Nat.mul_div_cancel k (Nat.two_pow_pos s)]

/-! ## 4. Digits of whole numbers -/

/-- The numeral of a number is that of its tenth part, and its last digit. -/
theorem ofNat_eq_ite (n : Nat) :
    Text.ofNat n =
      if n < 10 then [Text.unit (Nat.digitChar n)]
      else Text.ofNat (n / 10) ++ [Text.unit (Nat.digitChar (n % 10))] := by
  unfold Text.ofNat
  rw [Nat.toDigits_eq_if (by decide)]
  split <;> simp

/-- A numeral spells its number. -/
theorem natOfDigits_ofNat (n : Nat) : Text.natOfDigits (Text.ofNat n) = n := by
  have digit : ∀ d < 10, Text.digitValue (Text.unit (Nat.digitChar d)) = d := by decide
  induction n using Nat.strongRecOn with
  | ind n ih =>
    rw [ofNat_eq_ite]
    split
    · next small => simp [Text.natOfDigits, digit n small]
    · have front := ih (n / 10) (by omega)
      rw [Text.natOfDigits] at front ⊢
      rw [List.foldl_append, front, List.foldl_cons, List.foldl_nil,
        digit (n % 10) (Nat.mod_lt n (by decide))]
      omega

theorem digitText_digitList (n : Nat) : digitText (digitList n) = Text.ofNat n := by
  induction n using Nat.strongRecOn with
  | ind n ih =>
    rw [digitList_eq, ofNat_eq_ite]
    split
    · rfl
    · rw [digitText, List.map_append, ← digitText, ih (n / 10) (by omega)]
      rfl

/-- Zeros behind a number multiply it by a power of ten. -/
theorem digitList_mul_pow {n : Nat} (pos : 0 < n) (k : Nat) :
    digitList (n * 10 ^ k) = digitList n ++ List.replicate k 0 := by
  induction k with
  | zero => simp
  | succ k ih =>
    have large : ¬ n * 10 ^ (k + 1) < 10 := by
      have scaled := Nat.mul_le_mul pos (Nat.pow_pos (n := k) (show 0 < 10 by decide))
      rw [Nat.pow_succ, ← Nat.mul_assoc]
      omega
    have tenth : n * 10 ^ (k + 1) / 10 = n * 10 ^ k := by
      rw [Nat.pow_succ, ← Nat.mul_assoc, Nat.mul_div_cancel _ (by decide)]
    have last : n * 10 ^ (k + 1) % 10 = 0 := by
      rw [Nat.pow_succ, ← Nat.mul_assoc, Nat.mul_mod_left]
    rw [digitList_eq, if_neg large, tenth, last, ih, List.append_assoc, List.replicate_succ']

theorem length_digitList_le {n k : Nat} (small : n < 10 ^ k) (some : 0 < k) :
    (digitList n).length ≤ k := by
  induction k generalizing n with
  | zero => cases some
  | succ k ih =>
    rw [digitList_eq]
    split
    · simp
    · next large =>
      have less : n / 10 < 10 ^ k := by
        rw [Nat.pow_succ] at small
        omega
      have many : 0 < k := by
        rcases Nat.eq_zero_or_pos k with rfl | pos
        · simp at less; omega
        · exact pos
      have := ih less many
      simp
      omega

/-- A number has no fewer digits than its size asks for. -/
theorem lt_pow_length_digitList (n : Nat) : n < 10 ^ (digitList n).length := by
  induction n using Nat.strongRecOn with
  | ind n ih =>
    rw [digitList_eq]
    split
    · next small => simpa using small
    · have tenth := ih (n / 10) (by omega)
      rw [List.length_append, List.length_singleton, Nat.pow_succ]
      omega

/-- A number has no more digits than its size allows. -/
theorem pow_length_digitList_le {n : Nat} (pos : 0 < n) : 10 ^ (digitList n).length ≤ 10 * n := by
  induction n using Nat.strongRecOn with
  | ind n ih =>
    rw [digitList_eq]
    split
    · rw [List.length_singleton]
      omega
    · have tenth := ih (n / 10) (by omega) (by omega)
      rw [List.length_append, List.length_singleton, Nat.pow_succ]
      omega

/-- The zeros that are dropped can be put back. -/
theorem dropTrailingZeros_append (ds : List Nat) :
    dropTrailingZeros ds ++ List.replicate (ds.length - (dropTrailingZeros ds).length) 0 = ds := by
  have zeros : ∀ d ∈ ds.reverse.takeWhile (· == 0), d = 0 := by
    intro d mem
    simpa using (List.all_eq_true.mp List.all_takeWhile) d mem
  have tail : (ds.reverse.takeWhile (· == 0)).reverse =
      List.replicate (ds.length - (dropTrailingZeros ds).length) 0 := by
    rw [List.eq_replicate_iff]
    constructor
    · have parts := congrArg List.length
        (List.takeWhile_append_dropWhile (p := (· == 0)) (l := ds.reverse))
      rw [List.length_append, List.length_reverse] at parts
      simp only [dropTrailingZeros, List.length_reverse]
      omega
    · intro d mem
      exact zeros d (List.mem_reverse.mp mem)
  rw [← tail, dropTrailingZeros, ← List.reverse_append, List.takeWhile_append_dropWhile,
    List.reverse_reverse]

/-- Digits with the point behind them are laid out as a whole numeral, zeros included. -/
theorem layout_whole {d step point : Nat} (pos : 0 < d) (small : d * 10 ^ step < 10 ^ 21)
    (place : point = step + (digitList d).length) :
    layout ⟨dropTrailingZeros (digitList d), Int.ofNat point⟩ = Text.ofNat (d * 10 ^ step) := by
  have places : (digitList d).length + step ≤ 21 := by
    have := length_digitList_le small (by decide)
    rw [digitList_mul_pow pos] at this
    simpa using this
  have some : 0 < (digitList d).length := List.length_pos_iff.mpr (proper_digitList d pos).ne_nil
  have shorter : (dropTrailingZeros (digitList d)).length ≤ (digitList d).length := by
    have := congrArg List.length (dropTrailingZeros_append (digitList d))
    simp at this
    omega
  have inside : (decide (0 < Int.ofNat point) && decide (Int.ofNat point ≤ greatestPoint)) =
      true := by
    rw [Bool.and_eq_true, decide_eq_true_eq, decide_eq_true_eq]
    simp only [greatestPoint, Int.ofNat_eq_natCast]
    omega
  have count : Int.ofNat (dropTrailingZeros (digitList d)).length ≤ Int.ofNat point := by
    simp only [Int.ofNat_eq_natCast]
    omega
  have rest : (Int.ofNat point - Int.ofNat (dropTrailingZeros (digitList d)).length).toNat =
      (digitList d).length - (dropTrailingZeros (digitList d)).length + step := by
    simp only [Int.ofNat_eq_natCast]
    omega
  have all : digitText (dropTrailingZeros (digitList d)) ++ zeros
      ((digitList d).length - (dropTrailingZeros (digitList d)).length + step) =
      digitText (digitList (d * 10 ^ step)) := by
    rw [digitList_mul_pow pos]
    conv => rhs; rw [← dropTrailingZeros_append (digitList d)]
    simp [digitText, zeros, ← List.replicate_append_replicate, Nat.digitChar]
  rw [layout, if_pos inside, if_pos count, rest, all, digitText_digitList]

/-! ## 5. The search for digits -/

/-- A quotient that is a whole number. -/
structure Quotient.IsWhole (v : Quotient) (k : Nat) : Prop where
  num : v.num = k * v.den
  den : 0 < v.den

theorem Quotient.less_ofDecimal {v : Quotient} {k : Nat} (whole : v.IsWhole k) (d step : Nat) :
    v.less (.ofDecimal d (Int.ofNat step)) = decide (k < d * 10 ^ step) := by
  have exponent : Int.ofNat step ≥ 0 := Int.natCast_nonneg step
  rw [Quotient.less, Quotient.ofDecimal, if_pos exponent, whole.num]
  simp only [Int.ofNat_eq_natCast, Int.toNat_natCast, Nat.mul_one, Nat.pow_eq]
  exact decide_eq_decide.mpr (Nat.mul_lt_mul_right whole.den)

theorem isWhole_ofBinary (k s : Nat) : (Quotient.ofBinary (k * 2 ^ s) (-s)).IsWhole k := by
  unfold Quotient.ofBinary
  rcases Nat.eq_zero_or_pos s with rfl | pos
  · exact ⟨by simp, by simp⟩
  · rw [if_neg (by omega), Int.neg_neg, Int.toNat_natCast]
    exact ⟨rfl, Nat.two_pow_pos s⟩

section Search

variable {v : Quotient} {k : Nat} (whole : v.IsWhole k)
include whole

/-- The decimal point of a number stays between one and a power of ten above it. -/
theorem settlePoint_inside (pos : 0 < k) {most : Nat} (small : k < 10 ^ most) (fuel point : Nat)
    (behind : 0 < point) (before : point ≤ most) :
    ∃ place, settlePoint v fuel (Int.ofNat point) = Int.ofNat place ∧ 0 < place ∧ place ≤ most := by
  induction fuel generalizing point with
  | zero => exact ⟨point, rfl, behind, before⟩
  | succ fuel ih =>
    unfold settlePoint
    split
    · next reached =>
      rw [Quotient.less_ofDecimal whole] at reached
      refine ih (point + 1) (by omega) (Nat.lt_of_le_of_ne before ?_)
      rintro rfl
      simp [small] at reached
    · split
      · next less =>
        have back : Int.ofNat point - 1 = Int.ofNat (point - 1) := by
          simp only [Int.ofNat_eq_natCast]
          omega
        rw [back, Quotient.less_ofDecimal whole, decide_eq_true_eq] at less
        rw [back]
        refine ih (point - 1) (Nat.pos_of_ne_zero ?_) (by omega)
        intro zero
        rw [zero] at less
        omega
      · exact ⟨point, rfl, behind, before⟩

end Search

theorem decimalPoint_whole {k s : Nat} (pos : 0 < k) (width : k.log2 + s = 52) :
    ∃ place, decimalPoint (.ofBinary (k * 2 ^ s) (-s)) = Int.ofNat place ∧
      0 < place ∧ place ≤ 16 := by
  have whole := isWhole_ofBinary k s
  have small : k < 10 ^ 16 := by
    have : k < 2 ^ 53 := (Nat.log2_lt (Nat.ne_of_gt pos)).mp (by omega)
    omega
  obtain ⟨num, den⟩ : (Quotient.ofBinary (k * 2 ^ s) (-s)).num.log2 = 52 ∧
      (Quotient.ofBinary (k * 2 ^ s) (-s)).den.log2 = s := by
    unfold Quotient.ofBinary
    rcases Nat.eq_zero_or_pos s with rfl | some
    · exact ⟨by simpa using width, by simpa using (by decide : Nat.log2 1 = 0)⟩
    · rw [if_neg (by omega), Int.neg_neg, Int.toNat_natCast]
      exact ⟨by rw [log2_mul_two_pow pos, width], Nat.log2_two_pow⟩
  obtain ⟨estimate, same, most⟩ : ∃ e : Nat,
      (Int.ofNat 52 - Int.ofNat s) * 30103 / 100000 = Int.ofNat e ∧ e ≤ 15 := by
    refine ⟨(52 - s) * 30103 / 100000, ?_, ?_⟩
    · simp only [Int.ofNat_eq_natCast]
      omega
    · omega
  rw [decimalPoint, num, den, same]
  rcases Nat.eq_zero_or_pos estimate with rfl | some
  · have reached : (!(Quotient.ofBinary (k * 2 ^ s) (-s)).less (.ofDecimal 1 (Int.ofNat 0))) =
        true := by
      rw [Quotient.less_ofDecimal whole, Bool.not_eq_true', decide_eq_false_iff_not]
      omega
    rw [settlePoint, if_pos reached]
    exact settlePoint_inside whole pos small 7 1 (by decide) (by decide)
  · exact settlePoint_inside whole pos small 8 estimate some (by omega)

theorem Quotient.ofDecimal_natCast (d step : Nat) :
    Quotient.ofDecimal d (Int.ofNat step) = ⟨d * 10 ^ step, 1⟩ := by
  have exponent : Int.ofNat step ≥ 0 := Int.natCast_nonneg step
  rw [Quotient.ofDecimal, if_pos exponent]
  rfl

/-- Between the neighbours of a natural number with some bits to spare there is no other whole
number. -/
theorem holds_whole {k s : Nat} (pos : 0 < k) (some : 0 < s) (d step : Nat) :
    (RoundingInterval.of (k * 2 ^ s) (-s)).holds (.ofDecimal d (Int.ofNat step)) = true ↔
      d * 10 ^ step = k := by
  rw [Quotient.ofDecimal_natCast]
  generalize d * 10 ^ step = n
  have unit : 2 ^ 1 ≤ 2 ^ s := Nat.pow_le_pow_right (by decide) some
  -- two whole numbers are a unit apart, and the ends of the interval are nearer
  have apart : ∀ a b, a < b → a * 2 ^ s + 2 ^ s ≤ b * 2 ^ s := by
    intro a b less
    rw [← Nat.succ_mul]
    exact Nat.mul_le_mul_right _ less
  have less := apart n k
  have greater := apart k n
  have first := apart 0 k pos
  have half : ¬ -(s : Int) - 1 ≥ 0 := by omega
  have quarter : ¬ -(s : Int) - 2 ≥ 0 := by omega
  have halves : (-(-(s : Int) - 1)).toNat = s + 1 := by omega
  have quarters : (-(-(s : Int) - 2)).toNat = s + 2 := by omega
  have twice : n * 2 ^ (s + 1) = 2 * (n * 2 ^ s) := by
    rw [Nat.pow_succ, ← Nat.mul_assoc, Nat.mul_comm]
  have fourfold : n * 2 ^ (s + 2) = 4 * (n * 2 ^ s) := by
    rw [Nat.pow_add, ← Nat.mul_assoc, Nat.mul_comm]
  have same : n = k → n * 2 ^ s = k * 2 ^ s := fun h => h ▸ rfl
  simp only [RoundingInterval.of, RoundingInterval.holds, Quotient.ofBinary, if_neg half,
    if_neg quarter, halves, quarters, Quotient.less, Nat.pow_eq]
  generalize n * 2 ^ s = scaled at *
  generalize k * 2 ^ s = m at *
  split <;> split <;> simp [twice, fourfold] <;> omega

/-- On the grid of the whole numbers a whole number is found. -/
theorem onGrid_whole {v : Quotient} {k : Nat} (whole : v.IsWhole k) (pos : 0 < k)
    {i : RoundingInterval} (holds : i.holds (.ofDecimal k (Int.ofNat 0)) = true) (count : Nat) :
    onGrid v i (Int.ofNat count) count ≠ none := by
  have here : Int.ofNat count - Int.ofNat count = Int.ofNat 0 := Int.sub_self _
  have quotient : v.num / (v.den * Nat.pow 10 (Int.ofNat 0).toNat) = k := by
    rw [whole.num, show Nat.pow 10 (Int.ofNat 0).toNat = 1 from rfl, Nat.mul_one]
    exact Nat.mul_div_cancel k whole.den
  have other : (k != 0) = true := bne_iff_ne.mpr (Nat.ne_of_gt pos)
  unfold onGrid
  rw [here]
  extract_lets step scaled below rest belowHolds aboveHolds
  have found : belowHolds = true := by
    change (v.num / (v.den * Nat.pow 10 (Int.ofNat 0).toNat) != 0 &&
      i.holds (.ofDecimal (v.num / (v.den * Nat.pow 10 (Int.ofNat 0).toNat)) (Int.ofNat 0))) = true
    rw [quotient, other, holds]
    rfl
  rw [found]
  cases aboveHolds
  · simp
  · simp only
    split
    · simp
    · split
      · simp
      · split <;> simp

/-- The search ends on a grid of whole numbers, at the latest on that of all of them. -/
theorem layout_searchGrids {k s : Nat} (pos : 0 < k) (width : k.log2 + s = 52) (some : 0 < s)
    {place : Nat} (fuel count : Nat) (before : count ≤ place) (enough : place < count + fuel) :
    layout (searchGrids (.ofBinary (k * 2 ^ s) (-s)) (.of (k * 2 ^ s) (-s)) (Int.ofNat place) fuel
      count) = Text.ofNat k := by
  have small : k < 10 ^ 21 := by
    have : k < 2 ^ 53 := (Nat.log2_lt (Nat.ne_of_gt pos)).mp (by omega)
    omega
  induction fuel generalizing count with
  | zero => omega
  | succ fuel ih =>
    have step : Int.ofNat place - Int.ofNat count = Int.ofNat (place - count) := by
      simp only [Int.ofNat_eq_natCast]
      omega
    unfold searchGrids
    split
    · next d found =>
      have value : d * 10 ^ (place - count) = k := by
        have holds := (onGrid_found found).2
        rwa [step, holds_whole pos some] at holds
      have point : Int.ofNat place + (Int.ofNat (digitList d).length - Int.ofNat count) =
          Int.ofNat (place - count + (digitList d).length) := by
        simp only [Int.ofNat_eq_natCast]
        omega
      simp only [point]
      rw [layout_whole (onGrid_found found).1 (by rwa [value]) rfl, value]
    · next missing =>
      apply ih (count + 1) (Nat.lt_of_le_of_ne before _) (by omega)
      rintro rfl
      exact onGrid_whole (isWhole_ofBinary k s) pos
        ((holds_whole pos some k 0).mpr (by simp)) count missing

/-- The decimal numeral of a natural number is read as its number. -/
theorem ofDecimal_natural {k : Nat} (small : k < 2 ^ 52) : ofDecimal false k 0 = Float.ofNat k := by
  rcases Nat.eq_zero_or_pos k with rfl | pos
  · decide
  · have places : (Nat.toDigits 10 k).length ≤ 16 := by
      have few := length_digitList_le (show k < 10 ^ 16 by omega) (by decide)
      simpa [digitList] using few
    have near : ¬ (0 + Int.ofNat (Nat.toDigits 10 k).length > 400) := by
      simp only [Int.ofNat_eq_natCast]
      omega
    have notSmall : ¬ (0 + Int.ofNat (Nat.toDigits 10 k).length < -400) := by
      simp only [Int.ofNat_eq_natCast]
      omega
    rw [ofDecimal, if_neg (Nat.ne_of_gt pos)]
    simp only [if_neg near, if_neg notSmall]
    rfl

/-- The text of a natural number is its decimal numeral. -/
theorem text_ofNat {k : Nat} (small : k < 2 ^ 52) : text (Float.ofNat k) = Text.ofNat k := by
  rcases Nat.eq_zero_or_pos k with rfl | pos
  · decide
  · have less : k.log2 < 52 := (Nat.log2_lt (Nat.ne_of_gt pos)).mpr small
    obtain ⟨s, width⟩ : ∃ s, k.log2 + s = 52 := ⟨52 - k.log2, by omega⟩
    obtain ⟨place, point, behind, before⟩ := decimalPoint_whole pos width
    have significand : (k * 2 ^ s == 0) = false :=
      beq_false_of_ne (Nat.ne_of_gt (Nat.mul_pos pos (Nat.two_pow_pos s)))
    rw [text, parts_ofNat pos width]
    simp only [significand, shortest, point]
    exact layout_searchGrids pos width (by omega) 17 1 behind (by omega)

end VisualNovel.Number
