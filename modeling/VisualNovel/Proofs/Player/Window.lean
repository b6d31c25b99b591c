import VisualNovel.Player.Screen
import VisualNovel.Proofs.Player.Typewriter

/-!
The highlighted choice is on the screen.

A view shows its choices through a window, and a cursor moves over all of them. `View.Framed` says
that the cursor is on a choice, that the window is around the cursor, and that the window is not
moved past the last choice. The cursor is clamped and the window is moved by two computations
(`window_scrollFor`), a boundary brings other choices and resets both, and nothing else touches them
(`Framed.step`). So in every view that comes of actions exactly one of the rows for choices is
marked, and it is the row of the choice that enter takes.
-/

namespace VisualNovel.View

variable {v : View}

/-! ## 1. The window -/

/-- A view with its cursor on a choice and its window around the cursor. -/
structure Framed (v : View) : Prop where
  cursor_lt : v.choices ≠ [] → v.cursor < v.choices.length
  cursor_eq : v.choices = [] → v.cursor = 0
  scroll_le : v.scroll ≤ v.cursor
  cursor_lt_end : v.cursor < v.scroll + choiceRows
  scroll_le_last : v.scroll ≤ v.choices.length - choiceRows

/-- Wherever the cursor goes, the window follows it, and it stays before the end. -/
theorem window_scrollFor {cursor scroll total : Nat} (inside : cursor < total)
    (last : scroll ≤ total - choiceRows) :
    scrollFor cursor scroll total ≤ cursor ∧
      cursor < scrollFor cursor scroll total + choiceRows ∧
      scrollFor cursor scroll total ≤ total - choiceRows := by
  unfold scrollFor
  unfold choiceRows at last ⊢
  split
  · omega
  · split
    · omega
    · split <;> omega

theorem framed_goTo (v : View) (b : Boundary) (hud : Option Text) (replace : Bool)
    (notice : Text) : (v.goTo b hud replace notice).Framed where
  cursor_lt some := List.length_pos_iff.mpr some
  cursor_eq _ := rfl
  scroll_le := Nat.le_refl 0
  cursor_lt_end := Nat.lt_add_of_pos_right (by decide)
  scroll_le_last := Nat.zero_le _

theorem Framed.move (h : v.Framed) (delta : Int) : (v.move delta).Framed := by
  unfold View.move
  split
  · exact { h with }
  · next some =>
    rw [List.isEmpty_iff] at some
    have inside : min (v.choices.length - 1) (Int.ofNat v.cursor + delta).toNat <
        v.choices.length := by
      have := List.length_pos_iff.mpr some
      omega
    obtain ⟨front, back, last⟩ := window_scrollFor inside h.scroll_le_last
    exact ⟨fun _ => inside, fun none => absurd none some, front, back, last⟩

theorem Framed.tick (h : v.Framed) : v.tick.Framed := by
  unfold View.tick
  split
  · split <;> exact { h with }
  · split <;> exact { h with }
  · exact h

/-- Every action keeps the cursor on a choice and in the window. -/
theorem Framed.step (h : v.Framed) (action : ViewAction) : (v.step action).Framed := by
  cases action with
  | boundary b hud replace notice => exact v.framed_goTo b hud replace notice
  | tick => exact h.tick
  | move delta => exact h.move delta
  | flush | type | erase | notice => exact { h with }

theorem Framed.after (h : v.Framed) (actions : List ViewAction) : (v.after actions).Framed := by
  induction actions generalizing v with
  | nil => exact h
  | cons action rest ih => exact ih (h.step action)

/-! ## 2. The rows -/

/-- The row has the mark in front that says where the cursor is. -/
def Marked (v : View) (width row : Nat) : Prop := (v.choiceRow width row).startsWith "> " = true

instance (v : View) (width row : Nat) : Decidable (v.Marked width row) :=
  inferInstanceAs (Decidable (_ = true))

/-- A row is marked exactly if it shows a choice and the cursor is on that choice. -/
theorem marked_iff (v : View) (width row : Nat) :
    v.Marked width row ↔ (v.openChoices[v.scroll + row]?).isSome ∧ v.scroll + row = v.cursor := by
  unfold Marked choiceRow
  cases v.openChoices[v.scroll + row]? with
  | none =>
    have bare : Text.startsWith " " "> " = false := by decide
    simp [bare]
  | some choice =>
    by_cases here : v.scroll + row = v.cursor
    · rw [if_pos here, Text.startsWith, List.isPrefixOf_iff_prefix]
      simp only [Option.isSome_some, here, and_self, iff_true]
      exact List.prefix_append _ _
    · have bare (t : Text) : Text.startsWith (Text.ofString "  " ++ t) "> " = false := rfl
      simp [here, bare]

theorem openChoices_eq (shown : v.openChoices ≠ []) : v.openChoices = v.choices := by
  unfold openChoices at shown ⊢
  split
  · next hidden => exact absurd (if_pos hidden) shown
  · rfl

/-- The row of the choice under the cursor. -/
theorem Framed.exists_row (h : v.Framed) (some : v.choices ≠ []) :
    ∃ choice row, v.choices[v.cursor]? = Option.some choice ∧ row < choiceRows ∧
      v.scroll + row = v.cursor ∧
      ∀ width, (v.openChoices ≠ [] →
          v.choiceRow width row = Text.ofString "> " ++ Rows.truncate (width - 2) choice.text) ∧
        ∀ other, v.Marked width other ↔ other = row ∧ v.openChoices ≠ [] := by
  have under := List.getElem?_eq_getElem (h.cursor_lt some)
  have back := h.cursor_lt_end
  have place : v.scroll + (v.cursor - v.scroll) = v.cursor := Nat.add_sub_cancel' h.scroll_le
  refine ⟨_, v.cursor - v.scroll, under, by omega, place, fun width => ⟨fun shown => ?_, ?_⟩⟩
  · simp only [choiceRow, place, openChoices_eq shown, under, if_true]
  · intro other
    rw [marked_iff]
    constructor
    · rintro ⟨found, here⟩
      refine ⟨by omega, fun hidden => ?_⟩
      simp [hidden] at found
    · rintro ⟨rfl, shown⟩
      rw [place, openChoices_eq shown, under]
      exact ⟨rfl, rfl⟩

/-- The highlighted choice is always on the screen. In every view that comes of actions after the
first boundary the cursor is on a choice and in the window, and the window is not moved past the last
choice; without choices both are at the front. Of the rows for choices exactly one is the row of the
choice under the cursor, and as long as choices are shown it is the one that is marked. -/
theorem cursor_on_screen (b : Boundary) (hud : Option Text) (actions : List ViewAction) :
    let v := (View.start b hud).after actions
    (v.choices = [] → v.cursor = 0 ∧ v.scroll = 0) ∧
    (v.choices ≠ [] →
      v.cursor < v.choices.length ∧ v.scroll ≤ v.cursor ∧ v.cursor < v.scroll + choiceRows ∧
      v.scroll ≤ v.choices.length - choiceRows ∧
      ∃ choice row, v.choices[v.cursor]? = some choice ∧ row < choiceRows ∧
        v.scroll + row = v.cursor ∧
        ∀ width, (v.openChoices ≠ [] →
            v.choiceRow width row = Text.ofString "> " ++ Rows.truncate (width - 2) choice.text) ∧
          ∀ other, v.Marked width other ↔ other = row ∧ v.openChoices ≠ []) := by
  intro v
  have framed : v.Framed := (framed_goTo {} b hud true "ready").after actions
  refine ⟨fun none => ?_, fun some => ?_⟩
  · have front := framed.cursor_eq none
    have scroll := framed.scroll_le
    exact ⟨front, by omega⟩
  · exact ⟨framed.cursor_lt some, framed.scroll_le, framed.cursor_lt_end, framed.scroll_le_last,
      framed.exists_row some⟩

/-- Seven choices: the cursor goes down to the last one and up again, and the window stays where it
went. -/
example :
    let seven := BoundaryChoice.number ["a", "b", "c", "d", "e", "f", "g"]
    let v := (View.start { event := .choices, choices := seven } none).after
      (List.replicate 9 (.move 1) ++ [.move (-1)])
    v.cursor = 5 ∧ v.scroll = 2 ∧ v.Marked 16 3 := by
  decide

end VisualNovel.View
