import VisualNovel.Text.Basic

/-!
Blank units and trimming.

A unit is blank when it is white space of the Unicode standard, the next-line control excepted, or
the byte order mark. Trimming drops the blanks at both ends of a text.
-/

namespace VisualNovel.Text

/-- White space without the next-line control, and the byte order mark. -/
def isBlank (u : UInt16) : Bool :=
  (0x09 ≤ u && u ≤ 0x0D) || u == 0x20 || u == 0xA0 || u == 0x1680 ||
    (0x2000 ≤ u && u ≤ 0x200A) || u == 0x2028 || u == 0x2029 || u == 0x202F || u == 0x205F ||
    u == 0x3000 || u == 0xFEFF

/-- The text without the blanks in front. -/
def trimStart (t : Text) : Text := t.dropWhile isBlank

/-- The text without the blanks at both ends. -/
def trim (t : Text) : Text := (trimStart (trimStart t).reverse).reverse

end VisualNovel.Text
