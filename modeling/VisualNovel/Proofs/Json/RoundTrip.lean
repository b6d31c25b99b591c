import VisualNovel.Json.Parser
import VisualNovel.Proofs.Number.Shortest
import VisualNovel.Proofs.Text

/-!
Reading back the text of a JSON value.

`Json.parse?` inverts `Json.indented` and `Json.compact` up to what the text does not keep: a number
that is not finite is written as `null`, a finite one comes back as the number that its digits spell,
and the fields of an object come back in record order. `Json.reread` is that image of a value, and
`parse?_indented` and `parse?_compact` say that it is what a reader gets. The two texts differ only in
their gaps, which mean nothing to a reader, so that both are read by one proof (`Spacing`).

The value in front of a text is read without a look at what follows it, with one exception: digits
that follow a number would belong to it. `Delimited` is the condition on the rest that rules this
out, and everything that is written behind a value satisfies it.
-/

namespace VisualNovel.Json

/-! ## 1. Strings -/

theorem hexDigit_digitChar : ∀ d < 16,
    Text.isHexDigit (Text.unit (Nat.digitChar d)) = true ∧
      Text.hexValue (Text.unit (Nat.digitChar d)) = d := by
  decide

/-- The four digits of a numbered escape spell its unit. -/
theorem toUInt16_hexDigits (u : UInt16) :
    ((((0 * 16 + u.toNat / 4096 % 16) * 16 + u.toNat / 256 % 16) * 16 + u.toNat / 16 % 16) * 16 +
      u.toNat / 1 % 16).toUInt16 = u := by
  have bound := u.toNat_lt
  have spelled : (((0 * 16 + u.toNat / 4096 % 16) * 16 + u.toNat / 256 % 16) * 16 +
      u.toNat / 16 % 16) * 16 + u.toNat / 1 % 16 = u.toNat := by omega
  rw [spelled]
  exact UInt16.ofNat_toNat

theorem stringBody_numberedEscape (u : UInt16) (done rest : Text) :
    stringBody .plain done (numberedEscape u ++ rest) = stringBody .plain (u :: done) rest := by
  have digit := fun n => hexDigit_digitChar (u.toNat / n % 16) (Nat.mod_lt _ (by decide))
  have front : numberedEscape u ++ rest =
      Text.unit '\\' :: Text.unit 'u' :: (hexDigits u ++ rest) := rfl
  rw [front]
  simp only [hexDigits, List.cons_append, List.nil_append, stringBody]
  simp only [digit, toUInt16_hexDigits]
  rfl

theorem stringBody_escapeUnit (u : UInt16) (done rest : Text) :
    stringBody .plain done (escapeUnit u ++ rest) = stringBody .plain (u :: done) rest := by
  unfold escapeUnit
  split
  · subst u; rfl
  split
  · subst u; rfl
  split
  · subst u; rfl
  split
  · subst u; rfl
  split
  · subst u; rfl
  split
  · subst u; rfl
  split
  · subst u; rfl
  split
  · exact stringBody_numberedEscape u done rest
  · simp [stringBody, *]

/-- A half of a pair stands for itself where it has its partner. -/
theorem stringBody_half {u : UInt16} (half : Text.isHighHalf u || Text.isLowHalf u)
    (done rest : Text) :
    stringBody .plain done (u :: rest) = stringBody .plain (u :: done) rest := by
  have large : 0xD800 ≤ u := by
    simp only [Text.isHighHalf, Text.isLowHalf, Bool.or_eq_true, Bool.and_eq_true,
      decide_eq_true_eq] at half
    obtain ⟨h, _⟩ | ⟨h, _⟩ := half
    · exact h
    · exact UInt16.le_trans (by decide) h
  have other : ∀ v : UInt16, v < 0xD800 → u ≠ v := by
    rintro v small rfl
    exact absurd large (UInt16.not_le.mpr small)
  rw [stringBody, if_neg (other _ (by decide)), if_neg (other _ (by decide)), if_neg]
  intro small
  exact absurd (UInt16.lt_of_le_of_lt large small) (by decide)

/-- The content of a quoted string is read back. -/
theorem stringBody_escape (t done rest : Text) :
    stringBody .plain done (escape t ++ Text.unit '"' :: rest) = some (done.reverse ++ t, rest) := by
  induction t using escape.induct generalizing done with
  | case1 => simp [escape, stringBody]
  | case2 u half =>
    rw [escape, if_pos half, stringBody_numberedEscape]
    simp [stringBody]
  | case3 u whole =>
    rw [escape, if_neg whole, stringBody_escapeUnit]
    simp [stringBody]
  | case4 u v rest pair ih =>
    rw [Bool.and_eq_true] at pair
    rw [escape, if_pos (by simp [pair])]
    simp only [List.cons_append]
    rw [stringBody_half (by simp [pair]), stringBody_half (by simp [pair]), ih]
    simp
  | case5 u v rest pair ih =>
    rw [escape, if_neg pair, List.append_assoc]
    split
    · rw [stringBody_numberedEscape, ih]
      simp
    · rw [stringBody_escapeUnit, ih]
      simp

/-! ## 2. Numbers -/

/-- What may stand behind a number: nothing that would belong to it. -/
def Delimited (rest : Text) : Prop :=
  ∀ u ∈ rest.head?, Text.isDigit u = false ∧ u ≠ Text.unit '.' ∧ u ≠ Text.unit 'e' ∧
    u ≠ Text.unit 'E'

/-- A numeral of the grammar. -/
structure Numeral where
  whole : Text
  places : Text := []
  /-- Whether the exponent is negative, and its digits. -/
  scale : Option (Bool × Text) := none

namespace Numeral

/-- The decimal point and what stands behind it. -/
def fraction (n : Numeral) : Text := if n.places.isEmpty then [] else Text.unit '.' :: n.places

/-- The exponent. -/
def tail (n : Numeral) : Text :=
  match n.scale with
  | none => []
  | some (negative, digits) => Text.unit 'e' :: Text.unit (if negative then '-' else '+') :: digits

/-- The text of a numeral. -/
def text (n : Numeral) : Text := n.whole ++ (n.fraction ++ n.tail)

/-- The exponent as an integer. -/
def exponent (n : Numeral) : Int :=
  match n.scale with
  | none => 0
  | some (negative, digits) =>
    let size := Int.ofNat (Text.natOfDigits digits)
    if negative then -size else size

/-- The quantity that a numeral spells. -/
def quantity (n : Numeral) : ℚ :=
  Text.natOfDigits (n.whole ++ n.places) * 10 ^ (n.exponent - n.places.length)

/-- The number that a numeral spells. -/
def value (n : Numeral) (negative : Bool) : Float :=
  Number.ofDecimal negative (Text.natOfDigits (n.whole ++ n.places))
    (n.exponent - Int.ofNat n.places.length)

/-- What the grammar asks of the parts: they are digits, those of the whole part and of the exponent
are not missing, and the whole part does not begin with a zero that is not its only digit. -/
structure Valid (n : Numeral) : Prop where
  whole_digits : ∀ u ∈ n.whole, Text.isDigit u
  places_digits : ∀ u ∈ n.places, Text.isDigit u
  whole_form : ∃ d rest, n.whole = d :: rest ∧ (rest = [] ∨ d ≠ Text.unit '0')
  scale_form : ∀ s ∈ n.scale, s.2 ≠ [] ∧ ∀ u ∈ s.2, Text.isDigit u

end Numeral

theorem wholePart?_append {n : Numeral} (valid : n.Valid) {rest : Text}
    (stop : ∀ u ∈ rest.head?, Text.isDigit u = false) :
    wholePart? (n.whole ++ rest) = some (n.whole, rest) := by
  obtain ⟨taken, dropped⟩ := Text.span_class valid.whole_digits stop
  obtain ⟨d, more, form, single⟩ := valid.whole_form
  simp only [wholePart?, taken, dropped]
  rw [form]
  cases more with
  | nil => rfl
  | cons e more => simp [single.resolve_left]

theorem fractionPart?_append {n : Numeral} (valid : n.Valid) {rest : Text}
    (stop : ∀ u ∈ rest.head?, Text.isDigit u = false ∧ u ≠ Text.unit '.') :
    fractionPart? (n.fraction ++ rest) = some (n.places, rest) := by
  unfold Numeral.fraction
  split
  · next none =>
    rw [List.isEmpty_iff.mp none, List.nil_append]
    cases rest with
    | nil => rfl
    | cons u rest => simp [fractionPart?, stop u rfl]
  · next some =>
    obtain ⟨taken, dropped⟩ := Text.span_class valid.places_digits fun u mem => (stop u mem).1
    simp [fractionPart?, taken, dropped, some]

theorem scalePart?_append {n : Numeral} (valid : n.Valid) {rest : Text}
    (delimited : Delimited rest) : scalePart? (n.tail ++ rest) = some (n.exponent, rest) := by
  unfold Numeral.tail Numeral.exponent
  split
  · cases rest with
    | nil => rfl
    | cons u rest => simp [scalePart?, delimited u rfl]
  · next negative digits scale =>
    obtain ⟨some, all⟩ := valid.scale_form _ scale
    obtain ⟨taken, dropped⟩ := Text.span_class all fun u mem => (delimited u mem).1
    have sign : Number.takeSign (Text.unit (if negative then '-' else '+') :: (digits ++ rest)) =
        (negative, digits ++ rest) := by
      cases negative <;> rfl
    simp [scalePart?, sign, taken, dropped, some]

/-- A numeral is read as a whole, whatever follows. -/
theorem unsignedNumber?_text {n : Numeral} (valid : n.Valid) (negative : Bool) {rest : Text}
    (delimited : Delimited rest) :
    unsignedNumber? negative (n.text ++ rest) = some (.num (n.value negative), rest) := by
  have tail_stop : ∀ u ∈ (n.tail ++ rest).head?,
      Text.isDigit u = false ∧ u ≠ Text.unit '.' := by
    unfold Numeral.tail
    split
    · exact fun u mem => ⟨(delimited u mem).1, (delimited u mem).2.1⟩
    · rintro u ⟨⟩
      decide
  have whole_stop : ∀ u ∈ (n.fraction ++ (n.tail ++ rest)).head?, Text.isDigit u = false := by
    unfold Numeral.fraction
    split
    · exact fun u mem => (tail_stop u mem).1
    · rintro u ⟨⟩
      decide
  unfold unsignedNumber? Numeral.text
  simp only [List.append_assoc]
  rw [wholePart?_append valid whole_stop, Option.bind_eq_bind, Option.bind_some]
  simp only [fractionPart?_append valid tail_stop, Option.bind_eq_bind, Option.bind_some,
    scalePart?_append valid delimited]
  rfl

/-- A digit, as `digitText` writes it. -/
theorem digit_unit : ∀ d < 10, Text.isDigit (Text.unit (Nat.digitChar d)) ∧
    (Text.unit (Nat.digitChar d) = Text.unit '0' → d = 0) := by
  decide

theorem isDigit_digitText {ds : List Nat} (h : ∀ d ∈ ds, d < 10) :
    ∀ u ∈ Number.digitText ds, Text.isDigit u := by
  intro u mem
  obtain ⟨d, inside, rfl⟩ := List.mem_map.mp mem
  exact (digit_unit d (h d inside)).1

theorem isDigit_zeros (n : Nat) : ∀ u ∈ Number.zeros n, Text.isDigit u := by
  intro u mem
  rw [List.eq_of_mem_replicate mem]
  decide

theorem isDigit_ofNat (n : Nat) : ∀ u ∈ Text.ofNat n, Text.isDigit u := by
  induction n using Nat.strongRecOn with
  | ind n ih =>
    unfold Text.ofNat
    rw [Nat.toDigits_eq_if (by decide)]
    intro u mem
    split at mem
    · next small =>
      rw [List.map_singleton, List.mem_singleton] at mem
      exact mem ▸ (digit_unit n small).1
    · rw [List.map_append, List.map_singleton, List.mem_append, List.mem_singleton] at mem
      rcases mem with front | last
      · exact ih (n / 10) (by omega) u front
      · exact last ▸ (digit_unit (n % 10) (Nat.mod_lt n (by decide))).1

theorem ofNat_ne_nil (n : Nat) : Text.ofNat n ≠ [] := by
  simp [Text.ofNat, Nat.toDigits_ne_nil]

/-- A text that is a numeral of the grammar, and what it spells. -/
def IsNumeral (t : Text) (q : ℚ) : Prop := ∃ n : Numeral, n.Valid ∧ t = n.text ∧ n.quantity = q

section Layout

variable {digits : List Nat} (proper : Number.Proper digits)
include proper

/-- The digits begin with one that is not zero. -/
theorem digitText_eq_cons : ∃ u rest,
    Number.digitText digits = u :: rest ∧ u ≠ Text.unit '0' := by
  obtain ⟨d, rest, rfl, pos⟩ := proper.head_pos
  have small := proper.below_ten d List.mem_cons_self
  exact ⟨_, _, rfl, fun zero => Nat.ne_of_gt pos ((digit_unit d small).2 zero)⟩

/-- The point is behind the digits. -/
theorem isNumeral_zeros (k : Nat) : IsNumeral (Number.digitText digits ++ Number.zeros k)
    (Number.Digits.value ⟨digits, digits.length + k⟩) := by
  obtain ⟨u, rest, front, leading⟩ := digitText_eq_cons proper
  refine ⟨{ whole := Number.digitText digits ++ Number.zeros k }, ⟨?_, by simp, ?_, by simp⟩,
    by simp [Numeral.text, Numeral.fraction, Numeral.tail], ?_⟩
  · intro v mem
    exact (List.mem_append.mp mem).elim (isDigit_digitText proper.below_ten v) (isDigit_zeros k v)
  · exact ⟨u, rest ++ Number.zeros k, by rw [front]; rfl, .inr leading⟩
  · simp [Numeral.quantity, Numeral.exponent, Number.Digits.value, Number.natOfDigits_append,
      Number.natOfDigits_zeros]
    simp [Number.zeros]

/-- The point is among the digits. -/
theorem isNumeral_cut {k : Nat} (some : 0 < k) (less : k < digits.length) :
    IsNumeral ((Number.digitText digits).take k ++ Text.ofString "." ++
      (Number.digitText digits).drop k) (Number.Digits.value ⟨digits, k⟩) := by
  obtain ⟨u, rest, front, leading⟩ := digitText_eq_cons proper
  have all := isDigit_digitText proper.below_ten
  have count : (Number.digitText digits).length = digits.length := by simp [Number.digitText]
  have places : (Number.digitText digits).drop k ≠ [] := by
    rw [Ne, List.drop_eq_nil_iff, count]
    omega
  obtain ⟨k, rfl⟩ : ∃ j, k = j + 1 := ⟨k - 1, by omega⟩
  refine ⟨{ whole := (Number.digitText digits).take (k + 1)
            places := (Number.digitText digits).drop (k + 1) },
    ⟨fun v mem => all v (List.mem_of_mem_take mem), fun v mem => all v (List.mem_of_mem_drop mem),
      ⟨u, rest.take k, by rw [front]; rfl, .inr leading⟩, by simp⟩, ?_, ?_⟩
  · simp [Numeral.text, Numeral.fraction, Numeral.tail, places]
    rfl
  · simp only [Numeral.quantity, Numeral.exponent, Number.Digits.value, List.take_append_drop,
      List.length_drop, count]
    congr 2
    omega

/-- The point is before the digits. -/
theorem isNumeral_small (k : Nat) :
    IsNumeral (Text.ofString "0." ++ Number.zeros k ++ Number.digitText digits)
      (Number.Digits.value ⟨digits, -k⟩) := by
  obtain ⟨u, rest, front, _⟩ := digitText_eq_cons proper
  refine ⟨{ whole := [Text.unit '0'], places := Number.zeros k ++ Number.digitText digits },
    ⟨?_, ?_, ⟨_, [], rfl, .inl rfl⟩, by simp⟩, ?_, ?_⟩
  · intro v mem
    rw [List.mem_singleton.mp mem]
    decide
  · intro v mem
    exact (List.mem_append.mp mem).elim (isDigit_zeros k v) (isDigit_digitText proper.below_ten v)
  · simp [Numeral.text, Numeral.fraction, Numeral.tail, front]
    rfl
  · have zero : Text.natOfDigits [Text.unit '0'] = 0 := rfl
    simp only [Numeral.quantity, Numeral.exponent, Number.Digits.value, Number.natOfDigits_append,
      Number.natOfDigits_zeros, zero, Nat.zero_mul, Nat.zero_add, List.length_append]
    simp only [Number.zeros, Number.digitText, List.length_replicate, List.length_map]
    congr 2
    omega

/-- The point is behind the first digit, and an exponent says where it should be. -/
theorem isNumeral_scaled (negative : Bool) (size : Nat) :
    IsNumeral ((if digits.length = 1 then Number.digitText digits
      else (Number.digitText digits).take 1 ++ Text.ofString "." ++
        (Number.digitText digits).drop 1) ++
      (if negative then Text.ofString "e-" else Text.ofString "e+") ++ Text.ofNat size)
      (Number.Digits.value ⟨digits, (if negative then -(size : Int) else size) + 1⟩) := by
  obtain ⟨u, rest, front, _⟩ := digitText_eq_cons proper
  have all := isDigit_digitText proper.below_ten
  have count : digits.length = rest.length + 1 := by
    rw [← List.length_cons, ← front, Number.digitText, List.length_map]
  rw [front] at all ⊢
  refine ⟨{ whole := [u], places := rest, scale := some (negative, Text.ofNat size) },
    ⟨?_, fun v mem => all v (List.mem_cons_of_mem u mem), ⟨u, [], rfl, .inl rfl⟩, ?_⟩, ?_, ?_⟩
  · intro v mem
    exact all v (List.mem_singleton.mp mem ▸ List.mem_cons_self)
  · rintro s ⟨⟩
    exact ⟨ofNat_ne_nil size, isDigit_ofNat size⟩
  · have sign : (if negative then Text.ofString "e-" else Text.ofString "e+") =
        [Text.unit 'e', Text.unit (if negative then '-' else '+')] := by
      cases negative <;> rfl
    rw [sign, count]
    cases rest with
    | nil => simp [Numeral.text, Numeral.fraction, Numeral.tail]
    | cons v rest =>
      simp [Numeral.text, Numeral.fraction, Numeral.tail]
      rfl
  · simp only [Numeral.quantity, Numeral.exponent, Number.Digits.value, Number.natOfDigits_ofNat,
      front, count, Int.ofNat_eq_natCast, List.singleton_append]
    congr 2
    push_cast
    ring

/-- Digits are laid out as a numeral of the grammar that spells what they stand for. -/
theorem isNumeral_layout (point : Int) :
    IsNumeral (Number.layout ⟨digits, point⟩) (Number.Digits.value ⟨digits, point⟩) := by
  simp only [Number.layout]
  split
  · next near =>
    simp only [Bool.and_eq_true, decide_eq_true_eq] at near
    split
    · next behind =>
      simp only [Int.ofNat_eq_natCast] at behind
      have place : point = digits.length + ((point - digits.length).toNat : Int) := by omega
      have numeral := isNumeral_zeros proper (point - digits.length).toNat
      rwa [← place] at numeral
    · next behind =>
      simp only [Int.ofNat_eq_natCast] at behind
      have place : point = (point.toNat : Int) := by omega
      have numeral := isNumeral_cut proper (k := point.toNat) (by omega) (by omega)
      rwa [← place] at numeral
  · split
    · next small =>
      simp only [Bool.and_eq_true, decide_eq_true_eq] at small
      have place : point = -((-point).toNat : Int) := by omega
      have numeral := isNumeral_small proper (-point).toNat
      rwa [← place] at numeral
    · have scaled := isNumeral_scaled proper (decide (point - 1 < 0)) (point - 1).natAbs
      have one : Int.ofNat digits.length = 1 ↔ digits.length = 1 := by
        simp only [Int.ofNat_eq_natCast]
        omega
      have place : (if decide (point - 1 < 0) = true then -((point - 1).natAbs : Int)
          else (point - 1).natAbs) + 1 = point := by
        simp only [decide_eq_true_eq]
        split <;> omega
      rw [place] at scaled
      simpa only [one, decide_eq_true_eq] using scaled

end Layout

/-- A text that is read as a number, whatever may follow it. -/
def SpellsNumber (t : Text) : Prop :=
  ∃ y, ∀ rest, Delimited rest → number? (t ++ rest) = some (.num y, rest)

theorem number?_numeral {n : Numeral} (valid : n.Valid) {rest : Text} (delimited : Delimited rest) :
    number? (n.text ++ rest) = some (.num (n.value false), rest) := by
  rw [← unsignedNumber?_text valid false delimited]
  obtain ⟨d, more, form, _⟩ := valid.whole_form
  have digit := valid.whole_digits d (form ▸ List.mem_cons_self)
  have plus : d ≠ Text.unit '-' := by
    rintro rfl
    exact absurd digit (by decide)
  simp [Numeral.text, form, number?, plus]

theorem IsNumeral.spells {t : Text} {q : ℚ} (h : IsNumeral t q) : SpellsNumber t := by
  obtain ⟨n, valid, rfl, -⟩ := h
  exact ⟨n.value false, fun _ delimited => number?_numeral valid delimited⟩

theorem IsNumeral.spells_negative {t : Text} {q : ℚ} (h : IsNumeral t q) :
    SpellsNumber (Text.unit '-' :: t) := by
  obtain ⟨n, valid, rfl, -⟩ := h
  exact ⟨n.value true, fun rest delimited => unsignedNumber?_text valid true delimited⟩

theorem isNumeral_zero : IsNumeral (Text.ofString "0") 0 :=
  ⟨{ whole := [Text.unit '0'] },
    ⟨fun u mem => List.mem_singleton.mp mem ▸ rfl, by simp, ⟨_, [], rfl, .inl rfl⟩, by simp⟩, rfl,
    Rat.zero_mul _⟩

/-- The digits of a natural number are a numeral. -/
theorem valid_ofNat (k : Nat) : (⟨Text.ofNat k, [], none⟩ : Numeral).Valid := by
  refine ⟨isDigit_ofNat k, by simp, ?_, by simp⟩
  rcases Nat.eq_zero_or_pos k with rfl | pos
  · exact ⟨Text.unit '0', [], rfl, .inl rfl⟩
  · obtain ⟨u, rest, form, leading⟩ := digitText_eq_cons (Number.proper_digitList k pos)
    rw [Number.digitText_digitList] at form
    exact ⟨u, rest, form, .inr leading⟩

/-- The text of a finite number spells a number. -/
theorem spells_text {x : Float} (finite : Number.isFinite x) : SpellsNumber (Number.text x) := by
  unfold Number.isFinite at finite
  unfold Number.text
  split
  · next parts => simp [parts] at finite
  · next parts => simp [parts] at finite
  · next parts => simp [parts] at finite
  · next negative m p _ =>
    have body := isNumeral_layout (Number.proper_shortest m p) (Number.shortest m p).point
    split
    · exact isNumeral_zero.spells
    · cases negative
      · exact body.spells
      · exact body.spells_negative

/-- The number that the text of a number spells. -/
def rereadNumber (x : Float) : Float :=
  match number? (Number.text x) with
  | some (.num y, _) => y
  | _ => x

/-- The text of a finite number is read back as a whole. -/
theorem number?_text {x : Float} (finite : Number.isFinite x) {rest : Text}
    (delimited : Delimited rest) :
    number? (Number.text x ++ rest) = some (.num (rereadNumber x), rest) := by
  obtain ⟨y, reads⟩ := spells_text finite
  have alone := reads [] (by simp [Delimited])
  rw [List.append_nil] at alone
  rw [reads rest delimited, rereadNumber, alone]

/-- A numeral for a quantity near to a number spells this number. -/
theorem IsNumeral.number?_eq {t : Text} {q : ℚ} (h : IsNumeral t q) {x : Float} {negative : Bool}
    {m : Nat} {p : Int} (form : Number.parts x = .finite negative m p) (pos : 0 < m)
    (near : Number.Near m p q) :
    number? (if negative then Text.unit '-' :: t else t) = some (.num x, []) := by
  obtain ⟨n, valid, rfl, rfl⟩ := h
  have digits : 0 < Text.natOfDigits (n.whole ++ n.places) := by
    by_contra none
    have large := (near.bounds (Number.fits_of_parts form) pos).1
    have zero : n.quantity = 0 := by
      rw [Numeral.quantity, Nat.eq_zero_of_not_pos none, Nat.cast_zero, Rat.zero_mul]
    rw [zero] at large
    exact absurd large (not_le.mpr (by positivity))
  have value : n.value negative = x := Number.ofDecimal_near form pos digits near
  have alone : Delimited [] := by simp [Delimited]
  cases negative with
  | false =>
    have read := number?_numeral valid alone
    rwa [List.append_nil, value] at read
  | true =>
    have read := unsignedNumber?_text valid true alone
    rwa [List.append_nil, value] at read

/-- The text of a finite number spells this number, up to the sign of zero. -/
theorem unsigned_rereadNumber {x : Float} (finite : Number.isFinite x) :
    Number.unsigned (rereadNumber x) = Number.unsigned x := by
  unfold Number.isFinite at finite
  split at finite
  · next negative m p form =>
    rcases Nat.eq_zero_or_pos m with rfl | pos
    · have text : Number.text x = Text.ofString "0" := by
        rw [Number.text, form]
        rfl
      have zero : Number.toNat? x = some 0 := by
        rw [Number.toNat?, form]
        cases negative <;> simp
      have read : rereadNumber x = 0.0 := by
        rw [rereadNumber, text]
        rfl
      rw [read, Number.unsigned, Number.unsigned, if_pos zero, ite_self]
    · have text : Number.text x =
          if negative then Text.unit '-' :: Number.layout (Number.shortest m p)
          else Number.layout (Number.shortest m p) := by
        rw [Number.text, form]
        simp [pos.ne']
      have numeral := isNumeral_layout (Number.proper_shortest m p) (Number.shortest m p).point
      have read := numeral.number?_eq form pos
        (Number.near_shortest (Number.fits_of_parts form) pos)
      rw [rereadNumber, text, read]
  · cases finite

/-! ## 3. Values -/

mutual

/-- What a reader gets back from the text of a value. -/
def reread : Json → Json
  | .num x => if Number.isFinite x then .num (rereadNumber x) else .null
  | .arr items => .arr (rereadItems items)
  | .obj fields => .obj (orderedFields (rereadFields fields))
  | other => other

/-- What a reader gets back from the items of an array. -/
def rereadItems : List Json → List Json
  | [] => []
  | item :: rest => reread item :: rereadItems rest

/-- What a reader gets back from the fields of an object, before they are put into order. -/
def rereadFields : List (Text × Json) → List (Text × Json)
  | [] => []
  | (name, value) :: rest => (name, reread value) :: rereadFields rest

end

theorem rereadFields_eq_map (fields : List (Text × Json)) :
    rereadFields fields = fields.map fun f => (f.1, reread f.2) := by
  induction fields with
  | nil => rfl
  | cons f rest ih => rw [rereadFields, ih, List.map_cons]

theorem rereadItems_eq_map (items : List Json) : rereadItems items = items.map reread := by
  induction items with
  | nil => rfl
  | cons item rest ih => rw [rereadItems, ih, List.map_cons]

mutual

/-- How deep a reader can go into a value. -/
def depth : Json → Nat
  | .arr items => depthItems items + 1
  | .obj fields => depthFields fields + 1
  | _ => 1

/-- How deep a reader can go into the items of an array, which it reads one inside the other. -/
def depthItems : List Json → Nat
  | [] => 0
  | item :: rest => depth item + depthItems rest + 1

/-- How deep a reader can go into the fields of an object. -/
def depthFields : List (Text × Json) → Nat
  | [] => 0
  | (_, value) :: rest => depth value + depthFields rest + 1

end

theorem skipGap_cons {u : UInt16} (solid : isGap u = false) (t : Text) :
    skipGap (u :: t) = u :: t := by
  simp [skipGap, solid]

/-- A gap in front of a value does not matter. -/
theorem skipGap_append {gap : Text} (blank : ∀ u ∈ gap, isGap u = true) (t : Text) :
    skipGap (gap ++ t) = skipGap t := List.dropWhile_append_of_pos blank

theorem delimited_comma (rest : Text) : Delimited (Text.unit ',' :: rest) := by
  rintro u ⟨⟩
  decide

theorem delimited_close (rest : Text) {u : UInt16} (close : u = Text.unit ']' ∨ u = Text.unit '\x7d') :
    Delimited ([u] ++ rest) := by
  rintro v ⟨⟩
  rcases close with rfl | rfl <;> decide

/-- Nothing in a gap belongs to a number. -/
theorem delimited_blank {u : UInt16} (blank : isGap u = true) (rest : Text) :
    Delimited (u :: rest) := by
  rintro v ⟨⟩
  simp only [isGap, Bool.or_eq_true, beq_iff_eq] at blank
  rcases blank with ((rfl | rfl) | rfl) | rfl <;> decide

theorem delimited_of_blank {gap : Text} (blank : ∀ u ∈ gap, isGap u = true) : Delimited gap := by
  cases gap with
  | nil => exact nofun
  | cons u rest => exact delimited_blank (blank u List.mem_cons_self) rest

/-- A unit that a value can begin with. -/
def IsFirst (u : UInt16) : Prop := isGap u = false ∧ u ≠ Text.unit ']'

instance (u : UInt16) : Decidable (IsFirst u) := inferInstanceAs (Decidable (_ ∧ _))

/-- A number begins with a digit or with a minus, and so with nothing that another value begins
with. -/
theorem number?_first {u : UInt16} {t : Text} {r : Json × Text}
    (reads : number? (u :: t) = some r) :
    IsFirst u ∧ ∀ c ∈ ['"', '[', '\x7b', 't', 'f', 'n'], u ≠ Text.unit c := by
  have leading : u = Text.unit '-' ∨ Text.isDigit u := by
    by_cases minus : u = Text.unit '-'
    · exact .inl minus
    · refine .inr ?_
      cases digit : Text.isDigit u with
      | true => rfl
      | false => simp [number?, minus, unsignedNumber?, wholePart?, digit] at reads
  have other : ∀ v, v ≠ Text.unit '-' ∧ Text.isDigit v = false → u ≠ v := by
    rintro v ⟨minus, digit⟩ rfl
    rcases leading with first | first
    · exact minus first
    · rw [digit] at first
      cases first
  refine ⟨⟨?_, other _ (by decide)⟩, fun c mem => other _ ?_⟩
  · simp [isGap, other 0x20 (by decide), other 0x09 (by decide), other 0x0A (by decide),
      other 0x0D (by decide)]
  · simp only [List.mem_cons, List.not_mem_nil, or_false] at mem
    rcases mem with rfl | rfl | rfl | rfl | rfl | rfl <;> decide

theorem value?_number {fuel : Nat} {t : Text} {r : Json × Text} (reads : number? t = some r) :
    value? (fuel + 1) t = some r := by
  cases t with
  | nil => simp [number?] at reads
  | cons u t =>
    have other := (number?_first reads).2
    simp [value?, other, reads]

/-! ### Spaced values -/

/-- How the parts of a value are set apart: the gap in front of items, fields and closing brackets at
a level of nesting, and the gap behind a colon. -/
structure Spacing where
  gap : Nat → Text
  behindColon : Text
  blank_gap : ∀ level, ∀ u ∈ gap level, isGap u = true
  blank_behindColon : ∀ u ∈ behindColon, isGap u = true

namespace Spacing

/-- Everything on one line, without blanks. -/
def dense : Spacing where
  gap _ := []
  behindColon := []
  blank_gap _ := nofun
  blank_behindColon := nofun

/-- A line for each item and each field. -/
def broad : Spacing where
  gap := lineBreak
  behindColon := [Text.unit ' ']
  blank_gap level u mem := by
    rcases List.mem_cons.mp mem with rfl | blank
    · decide
    · rw [List.eq_of_mem_replicate blank]
      decide
  blank_behindColon u mem := by
    rw [List.mem_singleton.mp mem]
    decide

variable (spacing : Spacing)

/-- A field as it is written, with the text of its value. -/
def fieldText (name value : Text) : Text :=
  Text.unit '"' :: (escape name ++
    (Text.unit '"' :: Text.unit ':' :: (spacing.behindColon ++ value)))

mutual

/-- The text of a value at a level of nesting. -/
def valueText (level : Nat) : Json → Text
  | .null => "null"
  | .bool true => "true"
  | .bool false => "false"
  | .num x => numberText x
  | .str t => quote t
  | .arr [] => "[]"
  | .arr (item :: items) =>
    Text.unit '[' :: (spacing.gap (level + 1) ++
      (valueText (level + 1) item ++ afterItem level items))
  | .obj [] => "\x7b\x7d"
  | .obj ((name, value) :: fields) =>
    Text.unit '\x7b' :: (spacing.gap (level + 1) ++
      (spacing.fieldText name (valueText (level + 1) value) ++ afterField level fields))

/-- The text of an array behind an item: the other items, and the closing bracket. -/
def afterItem (level : Nat) : List Json → Text
  | [] => spacing.gap level ++ [Text.unit ']']
  | item :: items =>
    Text.unit ',' :: (spacing.gap (level + 1) ++
      (valueText (level + 1) item ++ afterItem level items))

/-- The text of an object behind a field: the other fields, and the closing brace. -/
def afterField (level : Nat) : List (Text × Json) → Text
  | [] => spacing.gap level ++ [Text.unit '\x7d']
  | (name, value) :: fields =>
    Text.unit ',' :: (spacing.gap (level + 1) ++
      (spacing.fieldText name (valueText (level + 1) value) ++ afterField level fields))

end

end Spacing

theorem join_cons (separator first : Text) (others : List Text) :
    Text.join separator (first :: others) = first ++ others.flatMap (separator ++ ·) := by
  induction others generalizing first with
  | nil => simp [Text.join]
  | cons next others ih =>
    have more := ih next
    simp only [Text.join] at more ⊢
    rw [List.intercalate_cons_cons, more]
    simp

open Spacing in
mutual

theorem valueText_dense : ∀ (j : Json) (level : Nat), dense.valueText level j = compact j
  | .null, _ | .bool true, _ | .bool false, _ | .num _, _ | .str _, _ | .arr [], _
  | .obj [], _ => rfl
  | .arr (item :: items), level => by
    rw [valueText, compact, compactItems, join_cons, valueText_dense item, afterItem_dense items]
    simp [dense]
  | .obj ((name, value) :: fields), level => by
    rw [valueText, compact, compactFields, join_cons, valueText_dense value,
      afterField_dense fields]
    simp [dense, fieldText, quote]

theorem afterItem_dense : ∀ (items : List Json) (level : Nat), dense.afterItem level items =
    (compactItems items).flatMap (Text.ofString "," ++ ·) ++ [Text.unit ']']
  | [], _ => rfl
  | item :: items, level => by
    rw [afterItem, compactItems, valueText_dense item, afterItem_dense items]
    simp [dense]
    rfl

theorem afterField_dense : ∀ (fields : List (Text × Json)) (level : Nat),
    dense.afterField level fields =
      (compactFields fields).flatMap (Text.ofString "," ++ ·) ++ [Text.unit '\x7d']
  | [], _ => rfl
  | (name, value) :: fields, level => by
    rw [afterField, compactFields, valueText_dense value, afterField_dense fields]
    simp [dense, fieldText, quote]
    rfl

end

open Spacing in
mutual

theorem valueText_broad : ∀ (j : Json) (level : Nat), broad.valueText level j = indentedAt level j
  | .null, _ | .bool true, _ | .bool false, _ | .num _, _ | .str _, _ | .arr [], _
  | .obj [], _ => rfl
  | .arr (item :: items), level => by
    rw [valueText, indentedAt, indentedItems, join_cons, valueText_broad item,
      afterItem_broad items]
    · simp [broad]
    · simp
  | .obj ((name, value) :: fields), level => by
    rw [valueText, indentedAt, indentedFields, join_cons, valueText_broad value,
      afterField_broad fields]
    · simp [broad, fieldText, quote]
      rfl
    · simp

theorem afterItem_broad : ∀ (items : List Json) (level : Nat), broad.afterItem level items =
    (indentedItems (level + 1) items).flatMap ((Text.unit ',' :: lineBreak (level + 1)) ++ ·) ++
      (lineBreak level ++ [Text.unit ']'])
  | [], _ => rfl
  | item :: items, level => by
    rw [afterItem, indentedItems, valueText_broad item, afterItem_broad items]
    simp [broad]

theorem afterField_broad : ∀ (fields : List (Text × Json)) (level : Nat),
    broad.afterField level fields =
      (indentedFields (level + 1) fields).flatMap ((Text.unit ',' :: lineBreak (level + 1)) ++ ·) ++
        (lineBreak level ++ [Text.unit '\x7d'])
  | [], _ => rfl
  | (name, value) :: fields, level => by
    rw [afterField, indentedFields, valueText_broad value, afterField_broad fields]
    simp [broad, fieldText, quote]
    rfl

end

namespace Spacing

variable {spacing : Spacing}

theorem skipGap_gap (level : Nat) (t : Text) :
    skipGap (spacing.gap level ++ t) = skipGap t :=
  skipGap_append (spacing.blank_gap level) t

/-- What begins with a gap may stand behind a number if what follows the gap may. -/
theorem delimited_gap (level : Nat) {rest : Text} (delimited : Delimited rest) :
    Delimited (spacing.gap level ++ rest) := by
  have blank := spacing.blank_gap level
  cases form : spacing.gap level with
  | nil => exact delimited
  | cons u gap => exact delimited_blank (blank u (form ▸ List.mem_cons_self)) _

/-- The text of a value is not empty and begins with something solid. -/
theorem valueText_eq_cons (level : Nat) (j : Json) :
    ∃ u t, spacing.valueText level j = u :: t ∧ IsFirst u := by
  match j with
  | .null | .bool true | .bool false | .str _ | .arr [] | .obj [] =>
    exact ⟨_, _, rfl, by decide⟩
  | .arr (_ :: _) | .obj (_ :: _) => exact ⟨_, _, rfl, by decide⟩
  | .num x =>
    rw [valueText, numberText]
    split
    · next finite =>
      have reads : number? (Number.text x ++ []) = _ := number?_text finite (by simp [Delimited])
      rw [List.append_nil] at reads
      cases text : Number.text x with
      | nil => simp [text, number?] at reads
      | cons u t => exact ⟨u, t, rfl, (number?_first (text ▸ reads)).1⟩
    · exact ⟨_, _, rfl, by decide⟩

theorem skipGap_valueText (level : Nat) (j : Json) (rest : Text) :
    skipGap (spacing.valueText level j ++ rest) = spacing.valueText level j ++ rest := by
  obtain ⟨u, t, form, first⟩ := spacing.valueText_eq_cons level j
  rw [form, List.cons_append, skipGap_cons first.1]

theorem skipGap_behindColon (level : Nat) (j : Json) (rest : Text) :
    skipGap (spacing.behindColon ++ (spacing.valueText level j ++ rest)) =
      spacing.valueText level j ++ rest := by
  rw [skipGap_append spacing.blank_behindColon]
  exact spacing.skipGap_valueText level j rest

end Spacing

/-! ### One step of the reader -/

section Step

variable {fuel : Nat} {t rest after : Text} {u : UInt16}

theorem value?_bracket (form : skipGap t = u :: rest) (other : u ≠ Text.unit ']') :
    value? (fuel + 1) (Text.unit '[' :: t) = elements? fuel [] (u :: rest) := by
  have open_ne : Text.unit '[' ≠ Text.unit '"' := by decide
  simp [value?, form, other, open_ne]

theorem value?_brace (form : skipGap t = u :: rest) (other : u ≠ Text.unit '\x7d') :
    value? (fuel + 1) (Text.unit '\x7b' :: t) = members? fuel [] (u :: rest) := by
  have open_ne : Text.unit '\x7b' ≠ Text.unit '"' ∧ Text.unit '\x7b' ≠ Text.unit '[' := by decide
  simp [value?, form, other, open_ne]

theorem elements?_comma {item : Json} {done : List Json}
    (reads : value? fuel (skipGap t) = some (item, rest))
    (form : skipGap rest = Text.unit ',' :: after) :
    elements? (fuel + 1) done t = elements? fuel (item :: done) after := by
  simp [elements?, reads, form]

theorem elements?_close {item : Json} {done : List Json}
    (reads : value? fuel (skipGap t) = some (item, rest))
    (form : skipGap rest = Text.unit ']' :: after) :
    elements? (fuel + 1) done t = some (.arr (done.reverse ++ [item]), after) := by
  have close_ne : Text.unit ']' ≠ Text.unit ',' := by decide
  simp [elements?, reads, form, close_ne]

variable {spacing : Spacing} {name : Text} {level : Nat} {value : Json}
  {done : List (Text × Json)}

theorem members?_comma {tail : Text}
    (form : skipGap t = spacing.fieldText name (spacing.valueText level value) ++ tail)
    (reads : value? fuel (spacing.valueText level value ++ tail) = some (reread value, tail))
    (behind : skipGap tail = Text.unit ',' :: after) :
    members? (fuel + 1) done t = members? fuel ((name, reread value) :: done) after := by
  simp only [members?, form, Spacing.fieldText, List.cons_append, List.append_assoc,
    stringBody_escape, skipGap_cons (show isGap (Text.unit ':') = false from rfl),
    spacing.skipGap_behindColon, reads, behind, if_true, List.reverse_nil, List.nil_append]

theorem members?_close {tail : Text}
    (form : skipGap t = spacing.fieldText name (spacing.valueText level value) ++ tail)
    (reads : value? fuel (spacing.valueText level value ++ tail) = some (reread value, tail))
    (behind : skipGap tail = Text.unit '\x7d' :: after) :
    members? (fuel + 1) done t =
      some (.obj (orderedFields ((name, reread value) :: done).reverse), after) := by
  have close_ne : Text.unit '\x7d' ≠ Text.unit ',' := by decide
  simp only [members?, form, Spacing.fieldText, List.cons_append, List.append_assoc,
    stringBody_escape, skipGap_cons (show isGap (Text.unit ':') = false from rfl),
    spacing.skipGap_behindColon, reads, behind, close_ne, if_true, if_false, List.reverse_nil,
    List.nil_append]

end Step

theorem orderedFields_nil : orderedFields [] = [] := by
  simp [orderedFields, recordOrder, Table.ofEntries, Table.empty]

theorem depth_pos (j : Json) : 0 < depth j := by
  cases j <;> simp [depth]

section Value

variable (spacing : Spacing)

mutual

/-- A value is read back, whatever may follow it. -/
theorem value?_valueText : ∀ (j : Json) (level fuel : Nat) (rest : Text), depth j ≤ fuel →
    Delimited rest → value? fuel (spacing.valueText level j ++ rest) = some (reread j, rest)
  | j, _, 0, _, enough, _ => absurd (depth_pos j) (by omega)
  | .null, _, _ + 1, _, _, _ => rfl
  | .bool true, _, _ + 1, _, _, _ => rfl
  | .bool false, _, _ + 1, _, _, _ => rfl
  | .num x, level, fuel + 1, rest, _, delimited => by
    rw [Spacing.valueText, numberText, reread]
    split
    · next finite => exact value?_number (number?_text finite delimited)
    · rfl
  | .str t, level, fuel + 1, rest, _, _ => by
    rw [Spacing.valueText, quote, List.cons_append, List.cons_append, List.append_assoc, value?,
      if_pos rfl, List.singleton_append, stringBody_escape]
    rfl
  | .arr [], _, _ + 1, _, _, _ => rfl
  | .arr (item :: items), level, fuel + 1, rest, enough, _ => by
    simp only [depth] at enough
    obtain ⟨u, t, text, first⟩ := spacing.valueText_eq_cons (level + 1) item
    have form : skipGap (spacing.gap (level + 1) ++
        (spacing.valueText (level + 1) item ++ (spacing.afterItem level items ++ rest))) =
        u :: (t ++ (spacing.afterItem level items ++ rest)) := by
      rw [Spacing.skipGap_gap, text, List.cons_append, skipGap_cons first.1]
    rw [Spacing.valueText, List.cons_append, List.append_assoc, List.append_assoc,
      value?_bracket form first.2,
      elements?_afterItem item items level fuel [] _ rest (by omega)
        (by rw [skipGap_cons first.1, text, List.cons_append])]
    simp [reread]
  | .obj [], _, _ + 1, _, _, _ => by
    rw [reread, rereadFields, orderedFields_nil]
    rfl
  | .obj ((name, value) :: fields), level, fuel + 1, rest, enough, _ => by
    simp only [depth] at enough
    have solid : isGap (Text.unit '"') = false := rfl
    have form : skipGap (spacing.gap (level + 1) ++
        (spacing.fieldText name (spacing.valueText (level + 1) value) ++
          (spacing.afterField level fields ++ rest))) =
        spacing.fieldText name (spacing.valueText (level + 1) value) ++
          (spacing.afterField level fields ++ rest) := by
      rw [Spacing.skipGap_gap, Spacing.fieldText, List.cons_append, skipGap_cons solid]
    rw [Spacing.valueText, List.cons_append, List.append_assoc, List.append_assoc,
      value?_brace form (by decide),
      members?_afterField name value fields level fuel [] _ rest (by omega) (skipGap_cons solid _)]
    simp [reread]
termination_by _ _ fuel => fuel

/-- The items of an array are read back. -/
theorem elements?_afterItem : ∀ (item : Json) (items : List Json) (level fuel : Nat)
    (done : List Json) (t rest : Text), depthItems (item :: items) ≤ fuel →
    skipGap t = spacing.valueText (level + 1) item ++ (spacing.afterItem level items ++ rest) →
    elements? fuel done t = some (.arr (done.reverse ++ rereadItems (item :: items)), rest)
  | _, _, _, 0, _, _, _, enough, _ => by simp [depthItems] at enough
  | item, [], level, fuel + 1, done, t, rest, enough, form => by
    simp only [depthItems] at enough
    rw [Spacing.afterItem, List.append_assoc] at form
    have reads := value?_valueText item (level + 1) fuel _ (by omega)
      (spacing.delimited_gap level (delimited_close rest (.inl rfl)))
    rw [← form] at reads
    rw [elements?_close reads (by rw [Spacing.skipGap_gap]; exact skipGap_cons rfl _)]
    rfl
  | item, next :: items, level, fuel + 1, done, t, rest, enough, form => by
    simp only [depthItems] at enough
    rw [Spacing.afterItem, List.cons_append, List.append_assoc, List.append_assoc] at form
    have reads := value?_valueText item (level + 1) fuel _ (by omega) (delimited_comma
      (spacing.gap (level + 1) ++ (spacing.valueText (level + 1) next ++
        (spacing.afterItem level items ++ rest))))
    rw [← form] at reads
    rw [elements?_comma reads (skipGap_cons rfl _),
      elements?_afterItem next items level fuel (reread item :: done) _ rest
        (by simp only [depthItems]; omega) (by rw [Spacing.skipGap_gap, Spacing.skipGap_valueText])]
    simp [rereadItems]
termination_by _ _ _ fuel => fuel

/-- The fields of an object are read back. -/
theorem members?_afterField : ∀ (name : Text) (value : Json) (fields : List (Text × Json))
    (level fuel : Nat) (done : List (Text × Json)) (t rest : Text),
    depthFields ((name, value) :: fields) ≤ fuel →
    skipGap t = spacing.fieldText name (spacing.valueText (level + 1) value) ++
      (spacing.afterField level fields ++ rest) →
    members? fuel done t =
      some (.obj (orderedFields (done.reverse ++ rereadFields ((name, value) :: fields))), rest)
  | _, _, _, _, 0, _, _, _, enough, _ => by simp [depthFields] at enough
  | name, value, [], level, fuel + 1, done, t, rest, enough, form => by
    simp only [depthFields] at enough
    rw [Spacing.afterField, List.append_assoc] at form
    have reads := value?_valueText value (level + 1) fuel _ (by omega)
      (spacing.delimited_gap level (delimited_close rest (.inr rfl)))
    have close : skipGap (spacing.gap level ++ ([Text.unit '\x7d'] ++ rest)) =
        Text.unit '\x7d' :: rest := by
      rw [Spacing.skipGap_gap]
      exact skipGap_cons rfl _
    rw [members?_close form reads close]
    simp [rereadFields]
  | name, value, (next, other) :: fields, level, fuel + 1, done, t, rest, enough, form => by
    simp only [depthFields] at enough
    rw [Spacing.afterField, List.cons_append, List.append_assoc, List.append_assoc] at form
    have reads := value?_valueText value (level + 1) fuel _ (by omega) (delimited_comma
      (spacing.gap (level + 1) ++ (spacing.fieldText next (spacing.valueText (level + 1) other) ++
        (spacing.afterField level fields ++ rest))))
    have more := members?_afterField next other fields level fuel ((name, reread value) :: done)
      (spacing.gap (level + 1) ++ (spacing.fieldText next (spacing.valueText (level + 1) other) ++
        (spacing.afterField level fields ++ rest)))
      rest (by simp only [depthFields]; omega)
      (by rw [Spacing.skipGap_gap]; exact skipGap_cons rfl _)
    rw [members?_comma form reads (skipGap_cons rfl _), more]
    simp [rereadFields]
termination_by _ _ _ _ fuel => fuel

end

/-! ### The depth of a text -/

mutual

/-- The text of a value is at least half as long as a reader can go into it. -/
theorem depth_le_length : ∀ (j : Json) (level : Nat),
    depth j ≤ 2 * (spacing.valueText level j).length
  | .arr (item :: items), level => by
    have first := depth_le_length item (level + 1)
    have others := depthItems_le_length items level
    simp only [Spacing.valueText, depth, depthItems, List.length_cons, List.length_append]
    omega
  | .obj ((name, value) :: fields), level => by
    have first := depth_le_length value (level + 1)
    have others := depthFields_le_length fields level
    simp only [Spacing.valueText, depth, depthFields, Spacing.fieldText, List.length_cons,
      List.length_append]
    omega
  | .null, level | .bool _, level | .num _, level | .str _, level | .arr [], level
  | .obj [], level => by
    obtain ⟨u, t, form, _⟩ := spacing.valueText_eq_cons level _
    rw [form]
    simp only [depth, depthItems, depthFields, List.length_cons]
    omega

theorem depthItems_le_length : ∀ (items : List Json) (level : Nat),
    depthItems items ≤ 2 * (spacing.afterItem level items).length
  | [], _ => by simp [depthItems]
  | item :: items, level => by
    have first := depth_le_length item (level + 1)
    have others := depthItems_le_length items level
    simp only [depthItems, Spacing.afterItem, List.length_cons, List.length_append]
    omega

theorem depthFields_le_length : ∀ (fields : List (Text × Json)) (level : Nat),
    depthFields fields ≤ 2 * (spacing.afterField level fields).length
  | [], _ => by simp [depthFields]
  | (name, value) :: fields, level => by
    have first := depth_le_length value (level + 1)
    have others := depthFields_le_length fields level
    simp only [depthFields, Spacing.afterField, Spacing.fieldText, List.length_cons,
      List.length_append]
    omega

end

/-- The text of a value is read back, also with a gap behind it. -/
theorem parse?_valueText (j : Json) {gap : Text} (blank : ∀ u ∈ gap, isGap u = true) :
    parse? (spacing.valueText 0 j ++ gap) = some (reread j) := by
  have enough : depth j ≤ 2 * (spacing.valueText 0 j ++ gap).length + 2 := by
    have least := depth_le_length spacing j 0
    rw [List.length_append]
    omega
  have reads := value?_valueText spacing j 0 _ gap enough (delimited_of_blank blank)
  have behind : (skipGap gap).isEmpty = true := by
    have same := skipGap_append blank []
    rw [List.append_nil] at same
    rw [same]
    rfl
  rw [parse?, Spacing.skipGap_valueText, reads]
  exact if_pos behind

end Value

/-- The text of a value over several lines, with a line break at its end, is read back. -/
theorem parse?_indented (j : Json) :
    parse? (indented j ++ [Text.unit '\n']) = some (reread j) := by
  rw [indented, ← valueText_broad]
  refine parse?_valueText .broad j fun u mem => ?_
  rw [List.mem_singleton.mp mem]
  decide

/-- The text of a value on one line is read back. -/
theorem parse?_compact (j : Json) : parse? (compact j) = some (reread j) := by
  have reads := parse?_valueText .dense j (List.forall_mem_nil fun u => isGap u = true)
  rwa [List.append_nil, valueText_dense] at reads

end VisualNovel.Json
