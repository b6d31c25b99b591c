import VisualNovel.Path
import VisualNovel.Proofs.Text

/-!
Paths and their names.

An absolute form is its list of names and nothing else: `absoluteNames` takes an absolute form apart
again (`absoluteNames_ofNames`), because its names hold no separator and none of them is `.` or
`..`. So taking the absolute form twice is taking it once, and a path that a project keeps leads
back to where it came from (`fromProject_toProject`): it is kept relative to the directory of the
project only if the way there leads down (`isAbsolute_toProject_iff`). A path ends in a part that lies
in the directory above it (`EndsIn`); an ending makes another name of that part, in the same
directory.
-/

namespace VisualNovel.Path

/-! ## 1. Names -/

/-- A name that a path can hold between two separators. -/
def IsName (name : Text) : Prop := name ≠ [] ∧ separator ∉ name

/-- A name that stands for itself. -/
def IsPlain (name : Text) : Prop :=
  IsName name ∧ name ≠ Text.ofString "." ∧ name ≠ Text.ofString ".."

theorem isName_of_mem_names {p name : Text} (h : name ∈ names p) : IsName name :=
  Text.mem_fields h

theorem names_mark (above below : Text) :
    names (above ++ separator :: below) = names above ++ names below :=
  Text.fields_append separator above below

theorem names_part {part : Text} (h : separator ∉ part) :
    names part = if part.isEmpty then [] else [part] :=
  Text.fields_part h

theorem names_join {ns : List Text} (h : ∀ name ∈ ns, IsName name) :
    names (Text.join root ns) = ns := by
  induction ns with
  | nil => rfl
  | cons first others ih =>
    have own := h first List.mem_cons_self
    have rest := ih fun name mem => h name (List.mem_cons_of_mem first mem)
    have alone : names first = [first] := by rw [names_part own.2, if_neg (by simp [own.1])]
    cases others with
    | nil => simpa [Text.join] using alone
    | cons second others =>
      have parted : Text.join root (first :: second :: others) =
          first ++ separator :: Text.join root (second :: others) := by
        simp [Text.join, root, separator, Text.ofString, Text.unitsOf, Text.unit]
      rw [parted, names_mark, alone, rest, List.singleton_append]

theorem names_ofNames {ns : List Text} (h : ∀ name ∈ ns, IsName name) : names (ofNames ns) = ns := by
  have front : ofNames ns = [] ++ separator :: Text.join root ns := rfl
  rw [front, names_mark, names_join h]
  rfl

/-! ## 2. Ways -/

/-- Plain names lead further down. -/
theorem walk_plain (start : List Text) {steps : List Text} (h : ∀ name ∈ steps, IsPlain name) :
    walk start steps = start ++ steps := by
  unfold walk
  suffices down : steps.foldl enter start.reverse = steps.reverse ++ start.reverse by
    rw [down]
    simp
  generalize start.reverse = above
  induction steps generalizing above with
  | nil => rfl
  | cons name steps ih =>
    have plain := h name List.mem_cons_self
    rw [List.foldl_cons, enter, if_neg plain.2.1, if_neg plain.2.2,
      ih (fun other mem => h other (List.mem_cons_of_mem name mem))]
    simp

/-- Wherever a way leads, the names on the way are plain. -/
theorem isPlain_walk {start steps : List Text} (above : ∀ name ∈ start, IsPlain name)
    (names : ∀ name ∈ steps, IsName name) : ∀ name ∈ walk start steps, IsPlain name := by
  unfold walk
  have reversed : ∀ name ∈ start.reverse, IsPlain name := by simpa using above
  revert reversed
  generalize start.reverse = done
  intro reversed
  simp only [List.mem_reverse]
  induction steps generalizing done with
  | nil => exact reversed
  | cons step steps ih =>
    refine ih (fun name mem => names name (List.mem_cons_of_mem step mem)) _ ?_
    intro name mem
    unfold enter at mem
    split at mem
    · exact reversed name mem
    · next other =>
      split at mem
      · exact reversed name (List.mem_of_mem_tail mem)
      · next up =>
        rcases List.mem_cons.mp mem with rfl | old
        · exact ⟨names name List.mem_cons_self, other, up⟩
        · exact reversed name old

theorem isPlain_absoluteNames (p : Text) : ∀ name ∈ absoluteNames p, IsPlain name :=
  isPlain_walk (by simp) fun _ => isName_of_mem_names

/-- Plain names come back from the path they make. -/
theorem absoluteNames_ofNames {ns : List Text} (h : ∀ name ∈ ns, IsPlain name) :
    absoluteNames (ofNames ns) = ns := by
  rw [absoluteNames, names_ofNames fun name mem => (h name mem).1, walk_plain [] h]
  rfl

@[simp] theorem absolute_absolute (p : Text) : absolute (absolute p) = absolute p := by
  rw [absolute, absolute, absoluteNames_ofNames (isPlain_absoluteNames p)]

theorem isPlain_resolve (base p : Text) : ∃ ns, (∀ name ∈ ns, IsPlain name) ∧
    resolve base p = ofNames ns := by
  unfold resolve
  split
  · exact ⟨_, isPlain_absoluteNames p, rfl⟩
  · exact ⟨_, isPlain_walk (isPlain_absoluteNames base) fun _ => isName_of_mem_names, rfl⟩

@[simp] theorem absolute_resolve (base p : Text) : absolute (resolve base p) = resolve base p := by
  obtain ⟨ns, plain, form⟩ := isPlain_resolve base p
  rw [form, absolute, absoluteNames_ofNames plain]

/-! ## 3. Paths inside a project -/

theorem dropCommon_eq (xs ys : List Text) : ∃ common,
    xs = common ++ (dropCommon xs ys).1 ∧ ys = common ++ (dropCommon xs ys).2 := by
  fun_induction dropCommon xs ys with
  | case1 xs x ys ih =>
    obtain ⟨common, left, right⟩ := ih
    exact ⟨x :: common, by rw [List.cons_append, ← left], by rw [List.cons_append, ← right]⟩
  | case2 => exact ⟨[], rfl, rfl⟩
  | case3 => exact ⟨[], rfl, rfl⟩

theorem dropCommon_append (common rest : List Text) :
    dropCommon common (common ++ rest) = ([], rest) := by
  induction common with
  | nil => cases rest <;> rfl
  | cons name common ih => rw [List.cons_append, dropCommon, if_pos rfl, ih]

/-- A way that begins upwards begins with two dots. -/
theorem startsWith_up (up : List Text) (name : Text) (down : List Text) :
    (Text.join root ((name :: up).map (fun _ => Text.ofString "..") ++ down)).startsWith
      (Text.ofString "..") = true := by
  rw [Text.startsWith, List.isPrefixOf_iff_prefix, List.map_cons, List.cons_append, Text.join]
  cases up.map (fun _ => Text.ofString "..") ++ down with
  | nil => simp
  | cons next others =>
    rw [List.intercalate_cons_cons, List.append_assoc]
    exact List.prefix_append _ _

/-- A way down begins with two dots only if its first name does, for a separator is no dot. -/
theorem startsWith_down (first : Text) (others : List Text) :
    (Text.join root (first :: others)).startsWith (Text.ofString "..") =
      first.startsWith (Text.ofString "..") := by
  have dots : Text.ofString ".." = [46, 46] := rfl
  have mark : root = [47] := rfl
  cases others with
  | nil => simp [Text.join]
  | cons second others =>
    rw [Text.join, List.intercalate_cons_cons, List.append_assoc, dots, mark]
    match first with
    | [] => rfl
    | [u] => simp [Text.startsWith, List.isPrefixOf]
    | u :: v :: rest => simp [Text.startsWith, List.isPrefixOf]

/-- A way down does not begin at the root. -/
theorem isAbsolute_down {down : List Text} (plain : ∀ name ∈ down, IsPlain name) :
    isAbsolute (Text.join root down) = false := by
  cases down with
  | nil => rfl
  | cons first others =>
    obtain ⟨⟨some, clear⟩, -⟩ := plain first List.mem_cons_self
    obtain ⟨u, rest, rfl⟩ := List.exists_cons_of_ne_nil some
    have other : u ≠ separator := fun mark => clear (mark ▸ List.mem_cons_self)
    cases others <;> simp [isAbsolute, Text.join, other]

variable {projectRoot script : Text}

/-- The way to a path below a directory leads down from there. -/
theorem relative_below {down : List Text}
    (below : absoluteNames script = absoluteNames projectRoot ++ down) :
    relative projectRoot script = Text.join root down := by
  rw [relative, below, dropCommon_append]
  rfl

/-- A way that does not begin with two dots leads to a path below. -/
theorem exists_below (inside : (relative projectRoot script).startsWith (Text.ofString "..") = false) :
    ∃ down, absoluteNames script = absoluteNames projectRoot ++ down ∧
      ∀ name ∈ down, IsPlain name := by
  obtain ⟨common, start, target⟩ :=
    dropCommon_eq (absoluteNames projectRoot) (absoluteNames script)
  unfold relative at inside
  generalize dropCommon (absoluteNames projectRoot) (absoluteNames script) = parts
    at start target inside
  obtain ⟨up, down⟩ := parts
  cases up with
  | cons name up =>
    rw [startsWith_up] at inside
    cases inside
  | nil =>
    rw [List.append_nil] at start
    exact ⟨down, start ▸ target, fun name mem =>
      isPlain_absoluteNames script name (target ▸ List.mem_append_right common mem)⟩

/-- A path that a project keeps leads back to where it came from. -/
theorem fromProject_toProject (projectRoot script : Text) :
    fromProject projectRoot (toProject projectRoot script) = absolute script := by
  unfold fromProject toProject
  simp only
  split
  · -- The script is kept by its absolute form.
    have rooted : isAbsolute (absolute script) = true := rfl
    rw [resolve, if_pos rooted, absolute_absolute]
  · -- The script is below the project directory.
    next inside =>
    simp only [Bool.or_eq_true, not_or, Bool.not_eq_true] at inside
    obtain ⟨down, below, plain⟩ := exists_below inside.1
    have steps : names (Text.join root down) = down := names_join fun name mem => (plain name mem).1
    rw [resolve, if_neg (by simp [inside.2]), relative_below below, steps, walk_plain _ plain,
      ← below, absolute]

theorem absoluteNames_eq_of_absolute_eq {p q : Text} (h : absolute p = absolute q) :
    absoluteNames p = absoluteNames q := by
  have same := congrArg absoluteNames h
  rwa [absolute, absolute, absoluteNames_ofNames (isPlain_absoluteNames p),
    absoluteNames_ofNames (isPlain_absoluteNames q)] at same

/-- A project keeps the same path for all spellings of its directory and of the script. -/
theorem toProject_of_absolute_eq {otherRoot spelling : Text}
    (sameRoot : absolute otherRoot = absolute projectRoot)
    (same : absolute spelling = absolute script) :
    toProject otherRoot spelling = toProject projectRoot script := by
  unfold toProject relative
  rw [absoluteNames_eq_of_absolute_eq sameRoot, absoluteNames_eq_of_absolute_eq same, same]

/-- Keeping looks at two dots, finding looks at the root, and both agree: what is kept by a relative
path lies below the directory, and its first name there does not begin with two dots. -/
theorem isAbsolute_toProject_iff (projectRoot script : Text) :
    isAbsolute (toProject projectRoot script) = false ↔
      ∃ down, absoluteNames script = absoluteNames projectRoot ++ down ∧
        ∀ first ∈ down.head?, first.startsWith (Text.ofString "..") = false := by
  have rooted : isAbsolute (absolute script) = true := rfl
  constructor
  · intro kept
    unfold toProject at kept
    simp only at kept
    split at kept
    · rw [rooted] at kept
      cases kept
    · next inside =>
      simp only [Bool.or_eq_true, not_or, Bool.not_eq_true] at inside
      obtain ⟨down, below, -⟩ := exists_below inside.1
      refine ⟨down, below, fun first mem => ?_⟩
      obtain ⟨others, rfl⟩ := List.head?_eq_some_iff.mp mem
      rw [← startsWith_down first others, ← relative_below below]
      exact inside.1
  · rintro ⟨down, below, clear⟩
    have plain : ∀ name ∈ down, IsPlain name := fun name mem =>
      isPlain_absoluteNames script name (below ▸ List.mem_append_right _ mem)
    have dotless : (Text.join root down).startsWith (Text.ofString "..") = false := by
      cases down with
      | nil => rfl
      | cons first others => rw [startsWith_down, clear first rfl]
    unfold toProject
    simp only [relative_below below, dotless, isAbsolute_down plain, Bool.or_self,
      Bool.false_eq_true, if_false]

/-- A script is found again. What a project keeps for a script leads back to it, and all spellings
of one path, and of the directory, are kept alike; so it is from any working directory, too. The path
that is kept is relative exactly for scripts below the directory whose first name there does not begin
with two dots. -/
theorem kept_path_found (projectRoot script : Text) :
    fromProject projectRoot (toProject projectRoot script) = absolute script ∧
    (∀ otherRoot spelling, absolute otherRoot = absolute projectRoot →
      absolute spelling = absolute script →
      toProject otherRoot spelling = toProject projectRoot script) ∧
    (∀ directory, fromProject (resolve directory projectRoot)
      (toProject (resolve directory projectRoot) (resolve directory script)) =
        resolve directory script) ∧
    (isAbsolute (toProject projectRoot script) = false ↔
      ∃ down, absoluteNames script = absoluteNames projectRoot ++ down ∧
        ∀ first ∈ down.head?, first.startsWith (Text.ofString "..") = false) := by
  refine ⟨fromProject_toProject projectRoot script, fun _ _ => toProject_of_absolute_eq,
    fun directory => ?_, isAbsolute_toProject_iff projectRoot script⟩
  rw [fromProject_toProject, absolute_resolve]

/-- The directory itself, a script below it, and a name that only looks like a way up. -/
example : toProject "/p/./game" "/p/game" = [] ∧
    toProject "/p/game" "/p//game/b/../a.vn" = Text.ofString "a.vn" ∧
    toProject "/p/game" "/p/game/..old/a.vn" = Text.ofString "/p/game/..old/a.vn" := by
  decide

/-! ## 4. The last part -/

/-- A path ends in a part that lies in the directory above it. -/
inductive EndsIn : Text → Text → Text → Prop
  | alone {last : Text} : separator ∉ last → EndsIn last [] last
  | inside (above : Text) {last : Text} : separator ∉ last →
      EndsIn (above ++ separator :: last) above last

theorem exists_endsIn (p : Text) : ∃ above last, EndsIn p above last := by
  by_cases mark : separator ∈ p
  · obtain ⟨last, above, split, clear⟩ := List.eq_append_cons_of_mem (List.mem_reverse.mpr mark)
    have form : p = above.reverse ++ separator :: last.reverse := by
      simpa using congrArg List.reverse split
    exact ⟨above.reverse, last.reverse, form ▸ .inside _ (by simpa using clear)⟩
  · exact ⟨[], p, .alone mark⟩

namespace EndsIn

variable {p above last : Text}

theorem clear (h : EndsIn p above last) : separator ∉ last := by
  cases h <;> assumption

theorem names_eq (h : EndsIn p above last) : names p = names above ++ names last := by
  cases h with
  | alone => rfl
  | inside above clear => exact names_mark above last

theorem append (h : EndsIn p above last) {ending : Text} (clear : separator ∉ ending) :
    EndsIn (p ++ ending) above (last ++ ending) := by
  cases h with
  | alone own => exact .alone (by simp [own, clear])
  | inside above own =>
    rw [List.append_assoc, List.cons_append]
    exact .inside above (by simp [own, clear])

/-- A plain name stands below the names above it. -/
theorem absoluteNames_eq (h : EndsIn p above last) (plain : IsPlain last) :
    absoluteNames p = absoluteNames above ++ [last] := by
  rw [absoluteNames, h.names_eq, names_part h.clear, if_neg (by simp [plain.1.1]), walk,
    List.foldl_append]
  simp [absoluteNames, walk, enter, plain.2.1, plain.2.2]

end EndsIn

/-- A long ending makes a plain name of every part. -/
theorem isPlain_append {last ending : Text} (inside : separator ∉ last) (clear : separator ∉ ending)
    (long : 2 < ending.length) : IsPlain (last ++ ending) := by
  have size : 2 < (last ++ ending).length := by
    rw [List.length_append]
    omega
  refine ⟨⟨List.length_pos_iff.mp (by omega), by simp [inside, clear]⟩, fun same => ?_,
    fun same => ?_⟩
  · rw [same] at size
    exact absurd size (by decide)
  · rw [same] at size
    exact absurd size (by decide)

/-- A path and the same with an ending lead to different places. -/
theorem absolute_ending_ne (p : Text) {ending : Text} (clear : separator ∉ ending)
    (long : 2 < ending.length) : absolute (p ++ ending) ≠ absolute p := by
  intro same
  obtain ⟨above, last, ends⟩ := exists_endsIn p
  have longer := (ends.append clear).absoluteNames_eq (isPlain_append ends.clear clear long)
  rw [absoluteNames_eq_of_absolute_eq same, absoluteNames, ends.names_eq, names_part ends.clear,
    walk, List.foldl_append] at longer
  have reversed := congrArg List.reverse longer
  simp only [absoluteNames, walk, List.reverse_append, List.reverse_reverse, List.reverse_nil,
    List.reverse_cons, List.nil_append, List.cons_append] at reversed
  generalize (names above).foldl enter [] = done at reversed
  -- One step leads up, stays or leads to the last part, which is too short.
  have size := congrArg List.length reversed
  split at reversed
  · next empty =>
    simp only [empty, if_true, List.foldl_nil, List.length_cons] at size
    omega
  · simp only [List.foldl_cons, List.foldl_nil] at reversed
    unfold enter at reversed
    split at reversed
    · exact absurd (congrArg List.length reversed) (by simp)
    · split at reversed
      · exact absurd (congrArg List.length reversed) (by simp)
      · have part := congrArg List.length (List.cons.inj reversed).1
        rw [List.length_append] at part
        omega

/-- The last part and the separators behind it do not reach the directory. -/
theorem dropWhile_last {last : Text} (clear : separator ∉ last) (some : last ≠ []) (rest : Text) :
    (last.reverse ++ rest).dropWhile (· == separator) = last.reverse ++ rest ∧
      (last.reverse ++ rest).dropWhile (· != separator) = rest.dropWhile (· != separator) := by
  have other : ∀ u ∈ last.reverse, u ≠ separator := fun u mem mark =>
    clear (List.mem_reverse.mp (mark ▸ mem))
  refine ⟨?_, List.dropWhile_append_of_pos fun u mem => by simpa using other u mem⟩
  obtain ⟨u, more, form⟩ := List.exists_cons_of_ne_nil (List.reverse_ne_nil_iff.mpr some)
  rw [form, List.cons_append, List.dropWhile_cons_of_neg]
  simpa using other u (form ▸ List.mem_cons_self)

/-- The directory of a path leads where its last part lies. -/
theorem EndsIn.absoluteNames_directory {p above last : Text} (h : EndsIn p above last)
    (closed : p.getLast? ≠ some separator) :
    absoluteNames (directory p) = absoluteNames above := by
  cases h with
  | alone clear =>
    cases p with
    | nil => rfl
    | cons first part =>
      rw [List.mem_cons, not_or] at clear
      have none : ((part.reverse.dropWhile (· == separator)).dropWhile (· != separator)) = [] := by
        by_cases empty : part = []
        · rw [empty]
          rfl
        · obtain ⟨whole, none⟩ := dropWhile_last clear.2 empty []
          rw [List.append_nil] at whole none
          rw [whole, none, List.dropWhile_nil]
      rw [directory]
      simp only [none, beq_eq_false_iff_ne.mpr (Ne.symm clear.1), Bool.false_eq_true, if_false]
      rfl
  | inside above clear =>
    have some : last ≠ [] := by
      rintro rfl
      exact closed (by simp)
    cases above with
    | nil =>
      obtain ⟨whole, none⟩ := dropWhile_last clear some []
      rw [List.append_nil] at whole none
      rw [List.nil_append, directory]
      simp only [whole, none]
      rfl
    | cons first above =>
      obtain ⟨whole, front⟩ := dropWhile_last clear some (separator :: above.reverse)
      rw [List.cons_append, directory]
      simp only [List.reverse_append, List.reverse_cons, List.append_assoc, List.singleton_append,
        whole, front, List.dropWhile_cons, bne_self_eq_false, Bool.false_eq_true, if_false,
        List.isEmpty_reverse, List.reverse_reverse]
      split
      · next rooted =>
        simp only [Bool.and_eq_true, beq_iff_eq, List.isEmpty_iff] at rooted
        rw [rooted.1, rooted.2]
        rfl
      · rfl

end VisualNovel.Path
