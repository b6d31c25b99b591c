import Mathlib.Algebra.Ring.Parity
import Mathlib.Data.List.Rotate
import VisualNovel.Stage.Geometry

/-!
Polygons as cycles of corners.

A point is inside a polygon when the ray from it crosses an odd number of edges (`holds_iff`). The
edges go round: each corner has the one before it, and the first has the last. So it does not matter
with which corner the list begins, and a corner that is written twice adds an edge without length,
which no ray crosses (`holds_cycle`). Nothing here depends on what the coordinates are or on how
crossings are computed from them.
-/

namespace VisualNovel.Polygon

/-! ## 1. Edges -/

/-- The edges of a polygon: each corner with the one before it, and the first with the last. -/
def edges (corners : List Point) : List (Point × Point) :=
  corners.zip (corners.rotate (corners.length - 1))

/-- The number of edges that the ray from a point crosses. -/
def crossings (p : Point) (edges : List (Point × Point)) : Nat :=
  edges.countP fun edge => crosses p edge.1 edge.2

theorem crossings_cons (p : Point) (edge : Point × Point) (more : List (Point × Point)) :
    crossings p (edge :: more) = crossings p more + if crosses p edge.1 edge.2 then 1 else 0 :=
  List.countP_cons

theorem edges_concat (front : List Point) (last : Point) :
    edges (front ++ [last]) = (front ++ [last]).zip (last :: front) := by
  have back : (front ++ [last]).length - 1 = front.length := by simp
  rw [edges, back, List.rotate_append_length_eq, List.singleton_append]

/-- The corners with the last one before them have the same edges. -/
theorem around (front : List Point) (last : Point) :
    (front ++ [last]).zip (last :: (front ++ [last])) = edges (front ++ [last]) := by
  have pairs : (front ++ [last] ++ []).zip (last :: front ++ [last]) =
      (front ++ [last]).zip (last :: front) ++ [].zip [last] := List.zip_append (by simp)
  rw [List.append_nil, List.zip_nil_left, List.append_nil] at pairs
  rw [edges_concat, ← pairs, List.cons_append]

/-- The edges of a list that begins elsewhere begin elsewhere. -/
theorem edges_rotate (corners : List Point) (n : Nat) :
    edges (corners.rotate n) = (edges corners).rotate n := by
  simp only [edges, List.zip_eq_zipWith]
  rw [List.zipWith_rotate_distrib _ _ _ _ (List.length_rotate ..).symm, List.length_rotate,
    List.rotate_rotate, List.rotate_rotate, Nat.add_comm]

/-- Each edge that is crossed turns the parity over. -/
theorem parity_eq (p previous : Point) (corners : List Point) :
    parity p previous corners =
      decide (Odd (crossings p (corners.zip (previous :: corners)))) := by
  induction corners generalizing previous with
  | nil => rfl
  | cons corner rest ih =>
    rw [parity, ih, List.zip_cons_cons, crossings_cons]
    cases crosses p corner previous with
    | true =>
      simp only [↓reduceIte, Nat.odd_add_one, decide_not]
      exact Bool.true_bne _
    | false => simp

/-- A point is inside a polygon when the ray from it crosses an odd number of edges. -/
theorem holds_iff (corners : List Point) (p : Point) :
    holds corners p = true ↔ 3 ≤ corners.length ∧ Odd (crossings p (edges corners)) := by
  rw [holds]
  split
  · next few => simp [Nat.not_le.mpr few]
  · next enough =>
    have more : 3 ≤ corners.length := Nat.le_of_not_lt enough
    rcases List.eq_nil_or_concat' corners with rfl | ⟨front, last, rfl⟩
    · cases more
    rw [List.getLast?_concat]
    simp only [parity_eq, around, decide_eq_true_eq, more, true_and]

/-! ## 2. Going round -/

theorem holds_rotate (corners : List Point) (p : Point) (n : Nat) :
    holds (corners.rotate n) p = holds corners p := by
  have same : crossings p (edges (corners.rotate n)) = crossings p (edges corners) := by
    rw [edges_rotate]
    exact (List.rotate_perm _ n).countP_eq _
  rw [Bool.eq_iff_iff, holds_iff, holds_iff, List.length_rotate, same]

/-- An edge without length is not crossed. -/
theorem crosses_self (p v : Point) : crosses p v v = false := by simp [crosses]

theorem parity_repeat (p previous v : Point) (before after : List Point) :
    parity p previous (before ++ v :: v :: after) = parity p previous (before ++ v :: after) := by
  induction before generalizing previous with
  | nil => simp [parity, crosses_self]
  | cons corner before ih => rw [List.cons_append, List.cons_append, parity, parity, ih]

theorem holds_repeat (p v : Point) (before after : List Point)
    (enough : 3 ≤ (before ++ v :: after).length) :
    holds (before ++ v :: v :: after) p = holds (before ++ v :: after) p := by
  have last : (before ++ v :: v :: after).getLast? = (before ++ v :: after).getLast? := by
    simp [List.getLast?_cons]
  have more : 3 ≤ (before ++ v :: v :: after).length := by
    simp only [List.length_append, List.length_cons] at enough ⊢
    omega
  simp only [holds, Nat.not_lt.mpr enough, Nat.not_lt.mpr more, last, parity_repeat]

/-- A polygon is a cycle of corners: it holds the same points wherever its list begins, and also when
one of three corners or more is written twice. -/
theorem holds_cycle (corners : List Point) (p : Point) :
    (∀ turned, corners ~r turned → holds turned p = holds corners p) ∧
    (3 ≤ corners.length → ∀ before v after, corners = before ++ v :: after →
      holds (before ++ v :: v :: after) p = holds corners p) := by
  constructor
  · rintro turned ⟨n, rfl⟩
    exact holds_rotate corners p n
  · rintro enough before v after rfl
    exact holds_repeat p v before after enough

/-- A triangle. -/
def triangle : List Point := [⟨0.0, 0.0⟩, ⟨8.0, 0.0⟩, ⟨4.0, 6.0⟩]

theorem holds_cycle_triangle :
    triangle ~r [⟨8.0, 0.0⟩, ⟨4.0, 6.0⟩, ⟨0.0, 0.0⟩] ∧ 3 ≤ triangle.length ∧
    holds [⟨8.0, 0.0⟩, ⟨4.0, 6.0⟩, ⟨0.0, 0.0⟩] ⟨4.0, 2.0⟩ = holds triangle ⟨4.0, 2.0⟩ ∧
    holds [⟨0.0, 0.0⟩, ⟨8.0, 0.0⟩, ⟨8.0, 0.0⟩, ⟨4.0, 6.0⟩] ⟨4.0, 2.0⟩ =
      holds triangle ⟨4.0, 2.0⟩ := by
  have turned : triangle ~r [⟨8.0, 0.0⟩, ⟨4.0, 6.0⟩, ⟨0.0, 0.0⟩] := ⟨1, rfl⟩
  have enough : 3 ≤ triangle.length := by decide
  obtain ⟨round, twice⟩ := holds_cycle triangle ⟨4.0, 2.0⟩
  exact ⟨turned, enough, round _ turned, twice enough [⟨0.0, 0.0⟩] ⟨8.0, 0.0⟩ [⟨4.0, 6.0⟩] rfl⟩

end VisualNovel.Polygon
