import Mathlib.Data.List.Chain
import Mathlib.Data.List.TakeWhile
import VisualNovel.Player.Screen
import VisualNovel.Proofs.Text

/-!
Rows fit, and they keep the text.

The words of a text are its fields between blanks. Breaking a text to a width moves whole words from
row to row; only a word that is wider than a row is cut, into pieces of the full width and a rest
(`Broken`). Everything follows from three facts about the rows behind a row that has been begun, each
by induction on the words that are left: no row is too long (`length_of_mem_fill`), the words on the
rows are the pieces of the words of the text, in order (`flatMap_words_fill`), and no row ends before
it must (`isChain_fill`).
-/

namespace VisualNovel
namespace Rows

variable {width : Nat} {word t row : Text}

/-- The words of a text. -/
def words (t : Text) : List Text := Text.fields (Text.unit ' ') t

/-! ## 1. Pieces of a word -/

/-- The pieces that a word is broken into. -/
def pieces (width : Nat) (word : Text) : List Text :=
  (split width word).1 ++ [(split width word).2]

/-- A word in pieces: pieces of the full width and a rest, and the word itself if it is not too
wide. -/
structure Broken (width : Nat) (word : Text) (parts : List Text) : Prop where
  flatten_eq : parts.flatten = word
  eq_of_le : word.length ≤ width → parts = [word]
  full : ∀ part ∈ parts.dropLast, part.length = width
  rest : ∃ last, parts.getLast? = some last ∧ last ≠ [] ∧ last.length ≤ width

theorem split_of_le (fits : word.length ≤ width) : split width word = ([], word) := by
  rw [split, dif_neg (by omega)]

theorem split_append (width : Nat) (word : Text) :
    (split width word).1.flatten ++ (split width word).2 = word := by
  fun_induction split width word with
  | case1 word long front rest cut ih =>
    rw [cut] at ih
    rw [List.flatten_cons, List.append_assoc, ih, List.take_append_drop]
  | case2 => rfl

theorem flatten_pieces (width : Nat) (word : Text) : (pieces width word).flatten = word := by
  rw [pieces, List.flatten_append, List.flatten_singleton, split_append]

/-- There is no blank in a piece of a word. -/
theorem clear_of_mem_pieces {part : Text} (clear : Text.unit ' ' ∉ word)
    (mem : part ∈ pieces width word) : Text.unit ' ' ∉ part := fun mark =>
  clear (flatten_pieces width word ▸ List.mem_flatten_of_mem mem mark)

theorem length_of_mem_split {part : Text} (h : part ∈ (split width word).1) :
    part.length = width := by
  fun_induction split width word with
  | case1 word long front rest cut ih =>
    rw [cut] at ih
    rcases List.mem_cons.mp h with rfl | later
    · rw [List.length_take]
      omega
    · exact ih later
  | case2 => cases h

theorem length_split_le (room : 0 < width) (word : Text) :
    (split width word).2.length ≤ width := by
  fun_induction split width word with
  | case1 word long front rest cut ih =>
    rw [cut] at ih
    exact ih
  | case2 word short =>
    simp only
    omega

/-- The rest of a word is not empty, since a word of exactly the width is not cut. -/
theorem split_ne_nil (some : word ≠ []) : (split width word).2 ≠ [] := by
  fun_induction split width word with
  | case1 word long front rest cut ih =>
    rw [cut] at ih
    refine ih fun none => ?_
    have := congrArg List.length none
    rw [List.length_drop, List.length_nil] at this
    omega
  | case2 => exact some

theorem broken_pieces (room : 0 < width) (some : word ≠ []) :
    Broken width word (pieces width word) where
  flatten_eq := flatten_pieces width word
  eq_of_le fits := by rw [pieces, split_of_le fits, List.nil_append]
  full part mem := by
    rw [pieces, List.dropLast_concat] at mem
    exact length_of_mem_split mem
  rest := ⟨_, by rw [pieces, List.getLast?_concat], split_ne_nil some, length_split_le room word⟩

/-- Pieces are words, if they are pieces of a word. -/
theorem words_eq_singleton (clear : Text.unit ' ' ∉ word) (some : word ≠ []) :
    words word = [word] := by
  rw [words, Text.fields_part clear, if_neg (by simpa using some)]

theorem flatMap_words_split (room : 0 < width) (clear : Text.unit ' ' ∉ word) :
    (split width word).1.flatMap words = (split width word).1 := by
  have each : ∀ part ∈ (split width word).1, words part = [part] := by
    intro part mem
    refine words_eq_singleton (clear_of_mem_pieces clear (List.mem_append_left _ mem)) ?_
    rwa [← List.length_pos_iff, length_of_mem_split mem]
  rw [List.flatMap_def, List.map_congr_left each, ← List.flatMap_def, List.flatMap_singleton']

/-- The words that the pieces of a word put on rows. -/
theorem words_split (room : 0 < width) (clear : Text.unit ' ' ∉ word) :
    (split width word).1.flatMap words ++ words (split width word).2 =
      if word.isEmpty then [] else pieces width word := by
  by_cases none : word = []
  · rw [none, split_of_le (Nat.zero_le width)]
    rfl
  · have last : Text.unit ' ' ∉ (split width word).2 :=
      clear_of_mem_pieces clear List.mem_concat_self
    rw [flatMap_words_split room clear, words_eq_singleton last (split_ne_nil none),
      if_neg (by simpa using none), pieces]

/-! ## 2. Rows behind a row -/

/-- No row is longer than the width. -/
theorem length_of_mem_fill (room : 0 < width) {begun : Text} (fits : begun.length ≤ width)
    {rest : List Text} (h : row ∈ fill width begun rest) : row.length ≤ width := by
  fun_induction fill width begun rest with
  | case1 begun =>
    rw [List.mem_singleton] at h
    exact h ▸ fits
  | case2 begun word rest part cut none ih =>
    have short := length_split_le room word
    rw [cut] at short
    exact ih short h
  | case3 begun word rest part cut some together ih =>
    refine ih ?_ h
    rw [List.length_append, List.length_cons]
    omega
  | case4 begun word rest part cut some apart ih =>
    have short := length_split_le room word
    rw [cut] at short
    rcases List.mem_cons.mp h with rfl | later
    · exact fits
    · exact ih short later
  | case5 begun word rest front part wide cut ih =>
    have short := length_split_le room word
    rw [cut] at short
    rw [List.mem_append, List.mem_append] at h
    rcases h with (own | whole) | later
    · split at own
      · cases own
      · exact List.mem_singleton.mp own ▸ fits
    · have full : row ∈ (split width word).1 := by rwa [cut]
      exact Nat.le_of_eq (length_of_mem_split full)
    · exact ih short later

/-- The words on the rows are those of the row that was begun and the pieces of the words that are
left. -/
theorem flatMap_words_fill (room : 0 < width) (begun : Text) {rest : List Text}
    (clear : ∀ word ∈ rest, Text.unit ' ' ∉ word) :
    (fill width begun rest).flatMap words =
      words begun ++ (rest.filter (!·.isEmpty)).flatMap (pieces width) := by
  have next {word : Text} {rest : List Text} (clear : Text.unit ' ' ∉ word) :
      ((word :: rest).filter (!·.isEmpty)).flatMap (pieces width) =
        (split width word).1.flatMap words ++ (words (split width word).2 ++
          (rest.filter (!·.isEmpty)).flatMap (pieces width)) := by
    rw [← List.append_assoc, words_split room clear]
    cases word <;> rfl
  fun_induction fill width begun rest with
  | case1 begun => rfl
  | case2 begun word rest part cut none ih =>
    rw [List.forall_mem_cons] at clear
    rw [next clear.1, cut, ih clear.2, List.isEmpty_iff.mp none]
    rfl
  | case3 begun word rest part cut some together ih =>
    rw [List.forall_mem_cons] at clear
    rw [next clear.1, cut, ih clear.2, words, Text.fields_append, List.append_assoc]
    rfl
  | case4 begun word rest part cut some apart ih =>
    rw [List.forall_mem_cons] at clear
    rw [next clear.1, cut, List.flatMap_cons, ih clear.2]
    rfl
  | case5 begun word rest front part wide cut ih =>
    rw [List.forall_mem_cons] at clear
    have begins : (if begun.isEmpty then [] else [begun]).flatMap words = words begun := by
      cases begun <;> simp [words, Text.fields, Text.splitOn]
    rw [next clear.1, cut, List.flatMap_append, List.flatMap_append, begins, ih clear.2,
      List.append_assoc]

/-! ## 3. Full rows -/

/-- How long the word at the front of a row is. -/
def lead (row : Text) : Nat := (row.takeWhile (· ≠ Text.unit ' ')).length

/-- Two rows of which the first has no room for the word at the front of the second. -/
def NoRoom (width : Nat) (row next : Text) : Prop := width < row.length + 1 + lead next

theorem length_le_lead (clear : Text.unit ' ' ∉ word) (more : Text) :
    word.length ≤ lead (word ++ more) := by
  have whole : word.takeWhile (· ≠ Text.unit ' ') = word :=
    List.takeWhile_eq_self_iff.mpr fun u mem =>
      decide_eq_true fun same => clear (same ▸ mem)
  rw [lead, List.takeWhile_append, whole, if_pos rfl, List.length_append]
  exact Nat.le_add_right _ _

/-- The row that was begun is at the front of the first row. -/
theorem head?_fill (width : Nat) {begun : Text} (some : begun ≠ []) (rest : List Text) :
    ∃ more, (fill width begun rest).head? = .some (begun ++ more) := by
  fun_induction fill width begun rest with
  | case1 begun => exact ⟨[], by simp⟩
  | case2 begun word rest part cut none ih => exact absurd (List.isEmpty_iff.mp none) some
  | case3 begun word rest part cut _ together ih =>
    obtain ⟨more, first⟩ := ih (by simp)
    exact ⟨Text.unit ' ' :: part ++ more, by rw [first, List.append_assoc]⟩
  | case4 begun word rest part cut _ apart ih => exact ⟨[], by simp⟩
  | case5 begun word rest front part wide cut ih =>
    exact ⟨[], by rw [if_neg (by simpa using some)]; simp⟩

/-- A row with no room for a word has none for the front of the row that this word begins. -/
theorem noRoom_of_mem_head?_fill {begun next : Text} {rest : List Text}
    (clear : Text.unit ' ' ∉ begun) (full : width < row.length + 1 + begun.length)
    (mem : next ∈ (fill width begun rest).head?) : NoRoom width row next := by
  unfold NoRoom
  -- an empty row is not kept, but what has no room for it has room for nothing
  by_cases none : begun = []
  · rw [none, List.length_nil] at full
    omega
  · obtain ⟨more, first⟩ := head?_fill width none rest
    obtain rfl : begun ++ more = next := Option.some_inj.mp (first.symm.trans mem)
    have := length_le_lead clear more
    omega

theorem isChain_append_of_full {front rows : List Text} (full : ∀ row ∈ front, row.length = width)
    (chain : rows.IsChain (NoRoom width)) : (front ++ rows).IsChain (NoRoom width) := by
  induction front with
  | nil => exact chain
  | cons piece front ih =>
    rw [List.forall_mem_cons] at full
    refine (ih full.2).cons fun next _ => ?_
    rw [NoRoom, full.1]
    omega

/-- A row ends only where the next word has no room. -/
theorem isChain_fill (begun : Text) {rest : List Text}
    (clear : ∀ word ∈ rest, Text.unit ' ' ∉ word) :
    (fill width begun rest).IsChain (NoRoom width) := by
  fun_induction fill width begun rest with
  | case1 begun => exact .singleton begun
  | case2 begun word rest part cut none ih =>
    rw [List.forall_mem_cons] at clear
    exact ih clear.2
  | case3 begun word rest part cut _ together ih =>
    rw [List.forall_mem_cons] at clear
    exact ih clear.2
  | case4 begun word rest part cut _ apart ih =>
    rw [List.forall_mem_cons] at clear
    have last : part ∈ pieces width word := by
      rw [pieces, cut]
      exact List.mem_concat_self
    exact (ih clear.2).cons fun next =>
      noRoom_of_mem_head?_fill (clear_of_mem_pieces clear.1 last) (Nat.lt_of_not_le apart)
  | case5 begun word rest front part wide cut ih =>
    rw [List.forall_mem_cons] at clear
    have full : ∀ piece ∈ front, piece.length = width := fun piece mem =>
      length_of_mem_split (by rwa [cut])
    have later := isChain_append_of_full full (ih clear.2)
    rw [List.append_assoc]
    split
    · exact later
    · obtain ⟨piece, whole, rfl⟩ := List.exists_cons_of_ne_nil wide
      have first : piece ∈ pieces width word := by
        rw [pieces, cut]
        exact List.mem_cons_self
      have long := length_le_lead (clear_of_mem_pieces clear.1 first) []
      rw [List.append_nil, full piece List.mem_cons_self] at long
      refine later.cons fun next mem => ?_
      obtain rfl : piece = next := Option.some_inj.mp mem
      rw [NoRoom]
      omega

/-! ## 4. Rows of a text -/

/-- The words on the rows of a text are the pieces of its words. -/
theorem flatMap_words_wrap (room : 0 < width) (t : Text) :
    (wrap width t).flatMap words = (words t).flatMap (pieces width) := by
  cases t with
  | nil =>
    have empty : wrap width [] = [[]] := by simp [wrap]
    rw [empty]
    rfl
  | cons u rest =>
    have rows : wrap width (u :: rest) =
        fill width [] (Text.splitOn (Text.unit ' ') (u :: rest)) := by
      simp [wrap, Nat.ne_of_gt room]
    rw [rows, flatMap_words_fill room [] fun word => Text.not_mem_of_mem_splitOn]
    rfl

theorem length_of_mem_wrap (room : 0 < width) (h : row ∈ wrap width t) : row.length ≤ width := by
  unfold wrap at h
  split at h
  · rw [List.mem_singleton] at h
    simp [h]
  · have fits : ([] : Text).length ≤ width := Nat.zero_le width
    exact length_of_mem_fill room fits h

/-- Rows are full: each ends where the word at the front of the next one has no room. -/
theorem isChain_wrap (width : Nat) (t : Text) : (wrap width t).IsChain (NoRoom width) := by
  unfold wrap
  split
  · exact .singleton []
  · exact isChain_fill [] fun word => Text.not_mem_of_mem_splitOn

/-- All rows together are the text, without the blanks of either. -/
theorem flatten_wrap (room : 0 < width) (t : Text) :
    (wrap width t).flatten.filter (· ≠ Text.unit ' ') = t.filter (· ≠ Text.unit ' ') := by
  have bare : (fun text : Text => text.filter (· ≠ Text.unit ' ')) = List.flatten ∘ words :=
    funext fun text => (Text.flatten_fields (Text.unit ' ') text).symm
  calc (wrap width t).flatten.filter (· ≠ Text.unit ' ')
      = ((wrap width t).map (List.flatten ∘ words)).flatten := by
        rw [List.filter_flatten, ← bare]
    _ = ((wrap width t).flatMap words).flatten := by
        rw [List.flatMap_def, List.flatten_flatten, List.map_map]
    _ = ((words t).flatMap (pieces width)).flatten := by rw [flatMap_words_wrap room]
    _ = ((words t).map fun word => (pieces width word).flatten).flatten := by
        rw [List.flatMap_def, List.flatten_flatten, List.map_map]
        rfl
    _ = (words t).flatten := by simp only [flatten_pieces, List.map_id']
    _ = t.filter (· ≠ Text.unit ' ') := Text.flatten_fields (Text.unit ' ') t

/-- A word that is not wider than a row stands whole on one of the rows. -/
theorem exists_row_of_word (room : 0 < width) (mem : word ∈ words t) (fits : word.length ≤ width) :
    ∃ row ∈ wrap width t, word ∈ words row := by
  have whole := (broken_pieces room (Text.mem_fields mem).1).eq_of_le fits
  have placed : word ∈ (words t).flatMap (pieces width) :=
    List.mem_flatMap.mpr ⟨word, mem, by simp [whole]⟩
  rwa [← flatMap_words_wrap room, List.mem_flatMap] at placed

/-- Word wrapping fits and keeps the text. Every row has at most the width; rows and text are the
same but for blanks; a word that is not wider than a row stands whole on one row. Only wider words
are cut, into pieces of the full width and a rest, and the words on the rows are the pieces of the
words of the text, in order. -/
theorem wrap_fits_and_keeps (room : 0 < width) (t : Text) :
    (∀ row ∈ wrap width t, row.length ≤ width) ∧
    (wrap width t).flatten.filter (· ≠ Text.unit ' ') = t.filter (· ≠ Text.unit ' ') ∧
    (∀ word ∈ words t, word.length ≤ width → ∃ row ∈ wrap width t, word ∈ words row) ∧
    (wrap width t).flatMap words = (words t).flatMap (pieces width) ∧
    ∀ word ∈ words t, Broken width word (pieces width word) :=
  ⟨fun _ => length_of_mem_wrap room, flatten_wrap room t,
    fun _ mem fits => exists_row_of_word room mem fits, flatMap_words_wrap room t,
    fun _ mem => broken_pieces room (Text.mem_fields mem).1⟩

/-- A word that is wider than a row between two that are not. -/
theorem wrap_fits_and_keeps_elephant :
    0 < 5 ∧ wrap 5 "an elephant goes" = (["an", "eleph", "ant", "goes"] : List Text) ∧
      (∀ row ∈ wrap 5 "an elephant goes", row.length ≤ 5) ∧
      ∃ row ∈ wrap 5 "an elephant goes", Text.ofString "goes" ∈ words row := by
  have room : 0 < 5 := by decide
  obtain ⟨fits, -, whole, -⟩ := wrap_fits_and_keeps room "an elephant goes"
  exact ⟨room, by decide +kernel, fits, whole "goes" (by decide) (by decide)⟩

end Rows

/-! ## 5. Lines on the screen -/

/-- No line is wider than the rows of the terminal. -/
theorem View.length_of_mem_lineRows {v : View} {size : TerminalSize} {row : Text}
    (h : row ∈ v.lineRows size) : row.length ≤ size.width := by
  have room : 0 < size.width := Nat.lt_of_lt_of_le (by decide) (Nat.le_max_left 16 _)
  obtain ⟨line, -, mem⟩ := List.mem_flatMap.mp (List.mem_of_mem_drop h)
  exact Rows.length_of_mem_wrap room mem

end VisualNovel
