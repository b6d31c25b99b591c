import VisualNovel.Text.Basic

/-!
Stretches and parts of a text.

A text is often taken apart at the first unit that is not in some class: digits, units of a word, units
of a line. What is taken has only units of the class (`all_takeWhile`), and a stretch of such units in
front of any other unit is taken whole (`span_class`). Or it is taken apart at every separator: its
fields are the longest stretches without one. Two texts with a separator between them have the fields
of either (`fields_append`), and all fields together are the text without the separators
(`flatten_fields`).
-/

namespace VisualNovel.Text

/-! ## 1. Stretches -/

section

variable {p : UInt16 → Bool}

theorem all_takeWhile (t : Text) : ∀ u ∈ t.takeWhile p, p u :=
  List.all_eq_true.mp List.all_takeWhile

/-- The units of a class in front of something that is not in it. -/
theorem span_class {front rest : Text} (all : ∀ u ∈ front, p u)
    (stop : ∀ u ∈ rest.head?, p u = false) :
    (front ++ rest).takeWhile p = front ∧ (front ++ rest).dropWhile p = rest := by
  rw [List.takeWhile_append_of_pos all, List.dropWhile_append_of_pos all]
  cases rest with
  | nil => simp
  | cons u rest => simp [stop u rfl]

end

/-! ## 2. Fields -/

variable {separator : UInt16} {t part : Text}

/-- The parts between separators are those of lists. -/
theorem splitOn_eq (separator : UInt16) (t : Text) :
    splitOn separator t = List.splitOn separator t := by
  induction t with
  | nil => rfl
  | cons u rest ih =>
    rw [splitOn, List.splitOn_cons_eq_if_modifyHead, ih]
    by_cases mark : u = separator
    · simp [mark]
    · rw [if_neg mark, if_neg (by simpa using mark)]
      cases parts : List.splitOn separator rest with
      | nil => exact absurd parts (List.splitOn_ne_nil separator rest)
      | cons => rfl

theorem not_mem_of_mem_splitOn (h : part ∈ splitOn separator t) : separator ∉ part := by
  induction t generalizing part with
  | nil =>
    rw [splitOn, List.mem_singleton] at h
    simp [h]
  | cons u rest ih =>
    unfold splitOn at h
    split at h
    · rcases List.mem_cons.mp h with rfl | later
      · simp
      · exact ih later
    · next other =>
      split at h
      · rw [List.mem_singleton] at h
        simpa [h] using Ne.symm other
      · next first parts split =>
        rcases List.mem_cons.mp h with rfl | later
        · have inside := ih (split ▸ List.mem_cons_self : first ∈ splitOn separator rest)
          simpa [Ne.symm other] using inside
        · exact ih (split ▸ List.mem_cons_of_mem first later)

theorem flatten_splitOn (separator : UInt16) (t : Text) :
    (splitOn separator t).flatten = t.filter (· ≠ separator) := by
  induction t with
  | nil => rfl
  | cons u rest ih =>
    rw [splitOn]
    by_cases mark : u = separator
    · simpa [mark] using ih
    · cases parts : splitOn separator rest with
      | nil => exact absurd (splitOn_eq separator rest ▸ parts) (List.splitOn_ne_nil separator rest)
      | cons part others =>
        rw [parts] at ih
        simpa [mark] using ih

/-- The parts of a text between separators, without the empty ones. -/
def fields (separator : UInt16) (t : Text) : List Text :=
  (splitOn separator t).filter (!·.isEmpty)

theorem mem_fields (h : part ∈ fields separator t) : part ≠ [] ∧ separator ∉ part := by
  rw [fields, List.mem_filter] at h
  exact ⟨by simpa using h.2, not_mem_of_mem_splitOn h.1⟩

/-- A separator parts the text before it from the text behind it. -/
theorem fields_append (separator : UInt16) (above below : Text) :
    fields separator (above ++ separator :: below) =
      fields separator above ++ fields separator below := by
  simp only [fields, splitOn_eq, List.splitOn_append_cons_self, List.filter_append]

/-- A text without separators is its only field. -/
theorem fields_part (clear : separator ∉ part) :
    fields separator part = if part.isEmpty then [] else [part] := by
  rw [fields, splitOn_eq, List.splitOn_eq_singleton clear]
  cases part <;> rfl

/-- Nothing but the separators is lost. -/
theorem flatten_fields (separator : UInt16) (t : Text) :
    (fields separator t).flatten = t.filter (· ≠ separator) := by
  rw [fields, List.flatten_filter_not_isEmpty, flatten_splitOn]

end VisualNovel.Text
