import Mathlib
import VisualNovel.Number.Decimal

/-!
The digits that a number is written with.

`shortest` searches decimal grids, and every grid point it can return is at least one. Its digits
are therefore a numeral in its own right: there is one, each is below ten, and the first is not
zero (`proper_shortest`). This is all that a reader of the text needs to know of the search.
-/

namespace VisualNovel.Number

/-- Digits that are written as a numeral: at least one, each below ten, the first not zero. -/
structure Proper (ds : List Nat) : Prop where
  below_ten : ∀ d ∈ ds, d < 10
  head_pos : ∃ d rest, ds = d :: rest ∧ 0 < d

namespace Proper

theorem ne_nil {ds : List Nat} (h : Proper ds) : ds ≠ [] := by
  obtain ⟨d, rest, rfl, _⟩ := h.head_pos
  simp

theorem append_digit {ds : List Nat} (h : Proper ds) {d : Nat} (small : d < 10) :
    Proper (ds ++ [d]) where
  below_ten := by
    intro e mem
    rcases List.mem_append.mp mem with old | new
    · exact h.below_ten e old
    · rwa [List.mem_singleton.mp new]
  head_pos := by
    obtain ⟨first, rest, rfl, pos⟩ := h.head_pos
    exact ⟨first, rest ++ [d], rfl, pos⟩

end Proper

/-- The digits of a number are those of its tenth part, and its last one. -/
theorem digitList_eq (n : Nat) :
    digitList n = if n < 10 then [n] else digitList (n / 10) ++ [n % 10] := by
  have value : ∀ d < 10, (Nat.digitChar d).toNat - '0'.toNat = d := by decide
  unfold digitList
  rw [Nat.toDigits_eq_if (by decide)]
  split
  · next small => rw [List.map_singleton, value n small]
  · rw [List.map_append, List.map_singleton, value (n % 10) (Nat.mod_lt n (by decide))]

theorem proper_digitList (n : Nat) (pos : 0 < n) : Proper (digitList n) := by
  induction n using Nat.strongRecOn with
  | ind n ih =>
    rw [digitList_eq]
    split
    · next small => exact ⟨by simpa using small, n, [], rfl, pos⟩
    · exact (ih (n / 10) (by omega) (by omega)).append_digit (Nat.mod_lt n (by decide))

/-- Zeros at the end can be dropped, because the first digit stops the dropping. -/
theorem proper_dropTrailingZeros {ds : List Nat} (h : Proper ds) :
    Proper (dropTrailingZeros ds) where
  below_ten := by
    intro d mem
    have inside := List.dropWhile_sublist (· == 0) |>.mem (List.mem_reverse.mp mem)
    exact h.below_ten d (List.mem_reverse.mp inside)
  head_pos := by
    obtain ⟨d, rest, rfl, pos⟩ := h.head_pos
    refine ⟨d, dropTrailingZeros rest, ?_, pos⟩
    have stop : (d == 0) = false := by simpa using Nat.pos_iff_ne_zero.mp pos
    unfold dropTrailingZeros
    rw [List.reverse_cons, List.dropWhile_append]
    split
    · next none => simp [stop, List.isEmpty_iff.mp none]
    · simp

/-- A grid point that is found is not zero, and it rounds to the number. -/
theorem onGrid_found {v : Quotient} {i : RoundingInterval} {point : Int} {count d : Nat}
    (found : onGrid v i point count = some d) :
    0 < d ∧ i.holds (.ofDecimal d (point - Int.ofNat count)) = true := by
  unfold onGrid at found
  extract_lets step scaled below rest belowHolds aboveHolds at found
  have atBelow : belowHolds = true → 0 < below ∧ i.holds (.ofDecimal below step) = true := by
    intro both
    obtain ⟨other, holds⟩ := Bool.and_eq_true_iff.mp both
    exact ⟨Nat.pos_of_ne_zero (bne_iff_ne.mp other), holds⟩
  have atAbove : aboveHolds = true → 0 < below + 1 ∧ i.holds (.ofDecimal (below + 1) step) = true :=
    fun holds => ⟨Nat.succ_pos below, holds⟩
  clear_value belowHolds aboveHolds
  cases belowHolds <;> cases aboveHolds <;> simp only at found
  · cases found
  · exact Option.some.inj found ▸ atAbove rfl
  · exact Option.some.inj found ▸ atBelow rfl
  · split at found
    · exact Option.some.inj found ▸ atBelow rfl
    · split at found
      · exact Option.some.inj found ▸ atAbove rfl
      · split at found
        · exact Option.some.inj found ▸ atBelow rfl
        · exact Option.some.inj found ▸ atAbove rfl

theorem proper_searchGrids (v : Quotient) (i : RoundingInterval) (point : Int)
    (fuel count : Nat) : Proper (searchGrids v i point fuel count).digits := by
  induction fuel generalizing count with
  | zero => exact proper_digitList _ (Nat.le_max_left 1 _)
  | succ fuel ih =>
    unfold searchGrids
    split
    · next d found => exact proper_dropTrailingZeros (proper_digitList d (onGrid_found found).1)
    · exact ih (count + 1)

theorem proper_shortest (m : Nat) (p : Int) : Proper (shortest m p).digits :=
  proper_searchGrids ..

end VisualNovel.Number
