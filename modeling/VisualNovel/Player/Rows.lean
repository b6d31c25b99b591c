import VisualNovel.Number.Binary
import VisualNovel.Text.Basic

/-!
Rows of a screen: texts cut and broken to a width.

`truncate` cuts a text and marks the cut. `wrap` breaks a text at blanks; a word that is wider than
a row is broken into rows of the full width and a rest.
-/

namespace VisualNovel.Rows

/-- What stands for a part that was cut off. -/
def ellipsis : Text := "…"

/-- A text cut to a width. -/
def truncate (width : Nat) (t : Text) : Text :=
  if width = 0 then []
  else if t.length ≤ width then t
  else t.take (width - 1) ++ ellipsis

/-- The pieces of the full width at the front of a word, and what is left of it. -/
def split (width : Nat) (word : Text) : List Text × Text :=
  if _h : 0 < width ∧ width < word.length then
    let (pieces, rest) := split width (word.drop width)
    (word.take width :: pieces, rest)
  else ([], word)
termination_by word.length
decreasing_by simp only [List.length_drop]; omega

/-- The rows of a list of words behind a row that has been begun. -/
def fill (width : Nat) (row : Text) : List Text → List Text
  | [] => [row]
  | word :: rest =>
    match split width word with
    | ([], word) =>
      if row.isEmpty then fill width word rest
      else if row.length + 1 + word.length ≤ width then
        fill width (row ++ Text.unit ' ' :: word) rest
      else row :: fill width word rest
    | (pieces, word) => (if row.isEmpty then [] else [row]) ++ pieces ++ fill width word rest

/-- The rows of a text. -/
def wrap (width : Nat) (t : Text) : List Text :=
  if width = 0 || t.isEmpty then [[]] else fill width [] (t.splitOn (Text.unit ' '))

/-! Widths that need not be whole: a row holds as many units as fit. -/

/-- The whole width for a text: the width without its fraction, and not more than the text needs. -/
def wholeWidth (width : Float) (t : Text) : Nat :=
  if Float.ofNat t.length ≤ width then t.length else Number.countUpTo width

/-- A text cut to any width. Where there is room for a part of one unit only, the mark stands. -/
def truncateTo (width : Float) (t : Text) : Text :=
  if width ≤ 0.0 then []
  else if Float.ofNat t.length ≤ width then t
  else truncate (max 1 (Number.countUpTo width)) t

/-- The rows of a text for any width. -/
def wrapTo (width : Float) (t : Text) : List Text := wrap (wholeWidth width t) t

end VisualNovel.Rows
