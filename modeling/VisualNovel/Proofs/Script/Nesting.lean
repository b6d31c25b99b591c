import Mathlib.Data.List.DropRight
import VisualNovel.Proofs.Json.RoundTrip
import VisualNovel.Proofs.Script.Labels
import VisualNovel.Proofs.Script.Outline

/-!
Blocks in a program.

The blocks of a file lie one behind the other or inside each other as long as the file is looked at
on its own. In a program the files stand one behind the other too: first the commands of a file,
then those of the files it includes, each with the numbers of its check blocks. A reading therefore
fills a stretch of commands and a stretch of numbers (`Source.Fills`), the file itself comes first
in both (`Source.Fills.own`, `Source.Fills.part`), and of two files that are read neither begins
inside the other (`Source.Fills.apart`). So what holds of the blocks of one file holds of all blocks
of a program (`blocks_nested`).

Labels with the name of a check block come from check blocks, unless a statement names one: putting
a name below scopes does not change its last part.
-/

namespace VisualNovel

/-! ## 1. Names of check blocks -/

namespace Text

/-- The part of a name behind its last point. -/
def lastPart (t : Text) : Text := t.rtakeWhile (· ≠ unit '.')

theorem lastPart_scope (scope name : Text) :
    lastPart (scope ++ ofString "." ++ name) = lastPart name := by
  have point : ofString "." = [unit '.'] := by decide
  induction name using List.reverseRecOn with
  | nil =>
    rw [point, List.append_nil, lastPart, List.rtakeWhile_concat_neg _ _ _ (by simp)]
    rfl
  | append_singleton name u ih =>
    rw [lastPart] at ih ⊢
    rw [← List.append_assoc, List.rtakeWhile_concat, ih, lastPart, lastPart, List.rtakeWhile_concat]

theorem lastPart_dotted (scopes : List Text) (name : Text) :
    lastPart (dotted scopes name) = lastPart name := by
  induction scopes with
  | nil => rfl
  | cons scope rest ih => exact (lastPart_scope scope _).trans ih

end Text

/-- The name of a check block has no point. -/
theorem lastPart_skipName (n : Nat) : (skipName n).lastPart = skipName n := by
  refine List.rtakeWhile_eq_self_iff.mpr fun u mem => ?_
  rcases List.mem_append.mp mem with mark | digit
  · have none : Text.unit '.' ∉ Statement.checkMark := by decide
    simpa using fun same : u = Text.unit '.' => none (same ▸ mark)
  · have digit := Json.isDigit_ofNat n u digit
    have other : Text.isDigit (Text.unit '.') = false := by decide
    simp only [ne_eq, decide_not, Bool.not_eq_true', decide_eq_false_iff_not]
    rintro rfl
    rw [other] at digit
    cases digit

theorem skipName_injective {n m : Nat} (h : skipName n = skipName m) : n = m := by
  have digits := List.append_cancel_left h
  rw [← Number.natOfDigits_ofNat n, digits, Number.natOfDigits_ofNat]

theorem skipName_plain (n : Nat) : (skipName n).startsWith rootMark = false ∧
    skipName n ≠ inventoryToggle ∧ skipName n ≠ unrecordedName :=
  Statement.checkMark_plain _

/-! ## 2. What a reading fills -/

namespace ScriptUnit

theorem Extends.size_le {part whole : ScriptUnit} (h : part.Extends whole) :
    part.commands.size ≤ whole.commands.size := by
  obtain ⟨more, commands⟩ := h.commands
  rw [commands, Array.size_append]
  exact Nat.le_add_right _ _

theorem size_append {file scope : Text} {whole part result : ScriptUnit}
    (h : whole.append file scope part = .ok result) :
    result.commands.size = whole.commands.size + part.commands.size := by
  obtain ⟨labels, -, hresult⟩ := except_bind_eq_ok.mp h
  cases hresult
  rw [Array.size_append, Array.size_map]

end ScriptUnit

namespace Source

variable {files : FileTree} {s t : Source} {first last : Nat} {whole : ScriptUnit} {o : Outline}

/-- Reading a file and those it includes gives the unit, while the number that was given last goes
from the first number to the last one. -/
structure Fills (files : FileTree) (s : Source) (first : Nat) (whole : ScriptUnit) (last : Nat) :
    Prop where
  counter : s.counter = .nth first
  unit : s.unit files = .ok (whole, .nth last)

/-- The outline of a file, and the number that was given last before it. -/
structure Outlined (s : Source) (o : Outline) (first : Nat) : Prop where
  counter : s.counter = .nth first
  outline : Outline.ofText s.file s.text = .ok o

/-- Reading never counts back. -/
theorem counts_on {n : Nat} {reached : Ordinal} (number : s.counter = .nth n)
    (h : s.unit files = .ok (whole, reached)) : ∃ m, reached = .nth m ∧ n ≤ m := by
  obtain ⟨depth, chain, file, text, counter⟩ := s
  induction depth generalizing chain file text counter n whole reached with
  | zero => cases h
  | succ depth ih =>
    rw [unit_succ] at h
    obtain ⟨draft, hdraft, hparts⟩ := except_bind_eq_ok.mp h
    cases number
    obtain ⟨o, -, number, -⟩ := readDraft_outline hdraft
    refine foldlM_keeps (P := fun so => ∃ m, so.2 = .nth m ∧ n ≤ m) ?_
      ⟨_, number, Nat.le_add_right _ _⟩ hparts
    rintro inc - ⟨whole, counter⟩ ⟨larger, reached⟩ ⟨m, reads, more⟩ hstep
    obtain ⟨inner, hinner, -⟩ := addInclude_eq_ok hstep
    obtain ⟨m', reads', more'⟩ := ih _ _ _ _ reads hinner
    exact ⟨m', reads', more.trans more'⟩

theorem counts_on_parts {includes : List Include} {depth : Nat} {chain : List Text} {file : Text}
    {result : ScriptUnit} {n : Nat} {reached : Ordinal}
    (h : includes.foldlM (addInclude files depth chain file) (whole, .nth n) =
      .ok (result, reached)) : ∃ m, reached = .nth m ∧ n ≤ m := by
  refine foldlM_keeps (P := fun so => ∃ m, so.2 = .nth m ∧ n ≤ m) ?_ ⟨n, rfl, Nat.le_refl n⟩ h
  rintro inc - ⟨whole, counter⟩ ⟨larger, reached⟩ ⟨m, reads, more⟩ hstep
  obtain ⟨inner, hinner, -⟩ := addInclude_eq_ok hstep
  obtain ⟨m', reads', more'⟩ := counts_on reads hinner
  exact ⟨m', reads', more.trans more'⟩

theorem exists_fills {n : Nat} {reached : Ordinal} (number : s.counter = .nth n)
    (h : s.unit files = .ok (whole, reached)) : ∃ m, s.Fills files n whole m := by
  obtain ⟨m, rfl, -⟩ := counts_on number h
  exact ⟨m, number, h⟩

theorem Outlined.draft {draft : Draft} (h : s.Outlined o first)
    (hdraft : readDraft files s.file s.text s.counter = .ok draft) :
    draft.counter = .nth (first + o.numbers) ∧ draft.commands.toList = o.commands first := by
  rw [h.counter] at hdraft
  obtain ⟨o', outline, number, commands⟩ := readDraft_outline hdraft
  cases h.outline.symm.trans outline
  exact ⟨number, commands⟩

/-- What an include fills, and what stands before and behind it. -/
theorem fills_of_foldlM {before after : List Include} {inc : Include} {depth : Nat}
    {chain : List Text} {file : Text} {result : ScriptUnit}
    (h : (before ++ inc :: after).foldlM (addInclude files depth chain file) (whole, .nth first) =
      .ok (result, .nth last)) :
    ∃ held n unit m, before.foldlM (addInclude files depth chain file) (whole, .nth first) =
        .ok (held, .nth n) ∧
      (Source.part files depth chain inc.path (.nth n)).Fills files n unit m ∧
      whole.commands.size ≤ held.commands.size ∧ first ≤ n ∧
      held.commands.size + unit.commands.size ≤ result.commands.size ∧ m ≤ last := by
  rw [List.foldlM_append] at h
  obtain ⟨⟨held, counter⟩, hbefore, h⟩ := except_bind_eq_ok.mp h
  rw [List.foldlM_cons] at h
  obtain ⟨⟨larger, middle⟩, hstep, hafter⟩ := except_bind_eq_ok.mp h
  obtain ⟨n, rfl, more⟩ := counts_on_parts hbefore
  obtain ⟨unit, hunit, happend⟩ := addInclude_eq_ok hstep
  obtain ⟨m, fills⟩ := exists_fills rfl hunit
  cases hunit.symm.trans fills.unit
  obtain ⟨m', same, more'⟩ := counts_on_parts hafter
  cases same
  refine ⟨held, n, unit, m, hbefore, fills, (extends_foldlM hbefore).size_le, more, ?_, more'⟩
  rw [← ScriptUnit.size_append happend]
  exact (extends_foldlM hafter).size_le

namespace Fills

variable (h : s.Fills files first whole last)
include h

/-- The file itself comes first. -/
theorem own : ∃ draft o, readDraft files s.file s.text s.counter = .ok draft ∧ s.Outlined o first ∧
    draft.unit.Extends whole ∧ first + o.numbers ≤ last := by
  obtain ⟨depth, chain, file, text, counter⟩ := s
  obtain ⟨number, hread⟩ := h
  cases depth with
  | zero => cases hread
  | succ depth =>
    rw [unit_succ] at hread
    obtain ⟨draft, hdraft, hparts⟩ := except_bind_eq_ok.mp hread
    cases number
    obtain ⟨o, outline, reads, -⟩ := readDraft_outline hdraft
    refine ⟨draft, o, hdraft, ⟨rfl, outline⟩, extends_foldlM hparts, ?_⟩
    rw [reads] at hparts
    obtain ⟨m, same, more⟩ := counts_on_parts hparts
    cases same
    exact more

theorem own_le (outlined : s.Outlined o first) :
    (o.commands first).length ≤ whole.commands.size ∧ first + o.numbers ≤ last := by
  obtain ⟨draft, o', hdraft, outlined', larger, numbers⟩ := h.own
  cases outlined.outline.symm.trans outlined'.outline
  rw [← (outlined.draft hdraft).2, Array.length_toList]
  exact ⟨larger.size_le, numbers⟩

/-- An included file comes behind the file itself. -/
theorem part {j : Nat} {scope : Text} (outlined : s.Outlined o first)
    (hpart : Part files s j scope t) : ∃ n unit m, t.Fills files n unit m ∧
      (o.commands first).length ≤ j ∧ first + o.numbers ≤ n ∧
      j + unit.commands.size ≤ whole.commands.size ∧ m ≤ last := by
  cases hpart with
  | intro hdraft split hbefore =>
    obtain ⟨number, commands⟩ := outlined.draft hdraft
    obtain ⟨draft, hdraft', hparts⟩ := except_bind_eq_ok.mp h.unit
    cases hdraft.symm.trans hdraft'
    rw [number] at hbefore
    simp only [split, number] at hparts
    obtain ⟨held, n, unit, m, hheld, fills, larger, more, inside, less⟩ := fills_of_foldlM hparts
    cases hbefore.symm.trans hheld
    rw [← commands, Array.length_toList]
    exact ⟨n, unit, m, fills, larger, more, inside, less⟩

/-- An included file, through a chain of includes, stays inside. -/
theorem inside {offset : Nat} {scopes : List Text} (hinc : Included files s offset scopes t) :
    ∃ n unit m, t.Fills files n unit m ∧ first ≤ n ∧
      offset + unit.commands.size ≤ whole.commands.size ∧ m ≤ last := by
  induction hinc generalizing first whole last with
  | self => exact ⟨first, whole, last, h, Nat.le_refl _, (Nat.zero_add _).le, Nat.le_refl _⟩
  | through hpart hinner ih =>
    obtain ⟨draft, o, -, outlined, -, -⟩ := h.own
    obtain ⟨n, unit, m, fills, -, more, size, less⟩ := h.part outlined hpart
    obtain ⟨n', unit', m', fills', more', size', less'⟩ := ih fills
    exact ⟨n', unit', m', fills', by omega, by omega, by omega⟩

theorem inside_own {offset n : Nat} {scopes : List Text} (hinc : Included files s offset scopes t)
    (outlined : t.Outlined o n) :
    first ≤ n ∧ offset + (o.commands n).length ≤ whole.commands.size ∧ n + o.numbers ≤ last := by
  obtain ⟨n', unit, m, fills, more, size, less⟩ := h.inside hinc
  cases fills.counter.symm.trans outlined.counter
  obtain ⟨length, numbers⟩ := fills.own_le outlined
  omega

end Fills

/-! ## 3. Files behind each other -/

/-- A file with those it includes stands in front of another file, in the commands and in the
numbers. -/
def Precedes (files : FileTree) (t : Source) (j : Nat) (t' : Source) (j' : Nat) : Prop :=
  ∃ n unit m n', t.Fills files n unit m ∧ t'.counter = .nth n' ∧
    j + unit.commands.size ≤ j' ∧ m ≤ n'

theorem precedes_of_split {depth : Nat} {chain : List Text} {file : Text}
    {so : ScriptUnit × Ordinal} {before between : List Include} {inc inc' : Include}
    {held held' : ScriptUnit} {reached reached' : Ordinal} (number : so.2 = .nth first)
    (hheld : before.foldlM (addInclude files depth chain file) so = .ok (held, reached))
    (hheld' : (before ++ inc :: between).foldlM (addInclude files depth chain file) so =
      .ok (held', reached')) :
    Precedes files (Source.part files depth chain inc.path reached) held.commands.size
      (Source.part files depth chain inc'.path reached') held'.commands.size := by
  obtain ⟨start, _⟩ := so
  cases number
  obtain ⟨m', rfl, -⟩ := counts_on_parts hheld'
  obtain ⟨held₁, n, unit, m, hheld₁, fills, -, -, size, less⟩ := fills_of_foldlM hheld'
  cases hheld.symm.trans hheld₁
  exact ⟨n, unit, m, m', fills, rfl, size, less⟩

/-- Two includes of a file are the same one, or one stands in front of the other. -/
theorem Fills.parts_apart (h : s.Fills files first whole last) {j j' : Nat} {scope scope' : Text}
    {t' : Source} (hpart : Part files s j scope t) (hpart' : Part files s j' scope' t') :
    (j = j' ∧ scope = scope' ∧ t = t') ∨ Precedes files t j t' j' ∨ Precedes files t' j' t j := by
  obtain ⟨draft, o, hdraft, outlined, -, -⟩ := h.own
  have number := (outlined.draft hdraft).1
  cases hpart with
  | intro hdraft₁ split hbefore =>
    cases hpart' with
    | intro hdraft₂ split' hbefore' =>
      cases hdraft.symm.trans hdraft₁
      cases hdraft.symm.trans hdraft₂
      -- One list of includes is taken apart in two ways.
      rcases List.append_eq_append_iff.mp (split.symm.trans split') with
        ⟨middle, rfl, rest⟩ | ⟨middle, rfl, rest⟩
      · cases middle with
        | nil =>
          cases rest
          rw [List.append_nil, hbefore] at hbefore'
          cases hbefore'
          exact .inl ⟨rfl, rfl, rfl⟩
        | cons inc between =>
          cases rest
          exact .inr (.inl (precedes_of_split number hbefore hbefore'))
      · cases middle with
        | nil =>
          cases rest
          rw [List.append_nil, hbefore'] at hbefore
          cases hbefore
          exact .inl ⟨rfl, rfl, rfl⟩
        | cons inc between =>
          cases rest
          exact .inr (.inr (precedes_of_split number hbefore' hbefore))

end Source

/-- An outline in line ends in front of a place and a number. -/
def Outline.EndsBefore (o : Outline) (i n i' n' : Nat) : Prop :=
  i + (o.commands n).length ≤ i' ∧ n + o.numbers ≤ n'

namespace Source

variable {files : FileTree} {s t t' : Source} {first last : Nat} {whole : ScriptUnit}
  {o o' : Outline}

theorem Precedes.endsBefore {j j' k k' n n' : Nat} {scopes scopes' : List Text} {u u' : Source}
    (h : Precedes files t j t' j') {whole' : ScriptUnit} {first' last' : Nat}
    (fills' : t'.Fills files first' whole' last')
    (hinc : Included files t k scopes u) (hinc' : Included files t' k' scopes' u')
    (outlined : u.Outlined o n) (outlined' : u'.Outlined o' n') :
    o.EndsBefore (j + k) n (j' + k') n' := by
  obtain ⟨_, unit, m, _, fills, counter, size, less⟩ := h
  cases fills'.counter.symm.trans counter
  have inner := fills.inside_own hinc outlined
  have inner' := fills'.inside_own hinc' outlined'
  unfold Outline.EndsBefore
  omega

theorem Fills.endsBefore_part (h : s.Fills files first whole last) (outlined : s.Outlined o first)
    {j k n' : Nat} {scope : Text} {scopes : List Text} {u : Source} (hpart : Part files s j scope t)
    (hinc : Included files t k scopes u) (outlined' : u.Outlined o' n') :
    o.EndsBefore 0 first (j + k) n' := by
  obtain ⟨n, unit, m, fills, length, more, -, -⟩ := h.part outlined hpart
  have inner := fills.inside_own hinc outlined'
  unfold Outline.EndsBefore
  omega

/-- Two files that are read are the same one, or one ends in front of the other. -/
theorem Fills.apart (h : s.Fills files first whole last) {i i' n n' : Nat}
    {scopes scopes' : List Text}
    (hinc : Included files s i scopes t) (hinc' : Included files s i' scopes' t')
    (outlined : t.Outlined o n) (outlined' : t'.Outlined o' n') :
    (i = i' ∧ scopes = scopes' ∧ t = t') ∨ o.EndsBefore i n i' n' ∨ o'.EndsBefore i' n' i n := by
  induction hinc generalizing first whole last i' scopes' with
  | self s =>
    cases h.counter.symm.trans outlined.counter
    cases hinc' with
    | self => exact .inl ⟨rfl, rfl, rfl⟩
    | through hpart' hinner' =>
      exact .inr (.inl (h.endsBefore_part outlined hpart' hinner' outlined'))
  | through hpart hinner ih =>
    cases hinc' with
    | self =>
      cases h.counter.symm.trans outlined'.counter
      exact .inr (.inr (h.endsBefore_part outlined' hpart hinner outlined))
    | through hpart' hinner' =>
      obtain ⟨_, _, -, own, -, -⟩ := h.own
      obtain ⟨_, _, _, fills, -⟩ := h.part own hpart
      obtain ⟨_, _, _, fills', -⟩ := h.part own hpart'
      rcases h.parts_apart hpart hpart' with ⟨rfl, rfl, rfl⟩ | behind | behind
      · rcases ih fills hinner' outlined with ⟨rfl, rfl, rfl⟩ | ⟨place, number⟩ | ⟨place, number⟩
        · exact .inl ⟨rfl, rfl, rfl⟩
        · exact .inr (.inl ⟨by omega, number⟩)
        · exact .inr (.inr ⟨by omega, number⟩)
      · exact .inr (.inl (behind.endsBefore fills' hinner hinner' outlined outlined'))
      · exact .inr (.inr (behind.endsBefore fills hinner' hinner outlined' outlined))

/-! ## 4. Where labels come from -/

/-- A label of a program, with its place, is one of the commands of a file that is read. -/
def Tells (files : FileTree) (s : Source) (e : Text × Nat) : Prop :=
  ∃ offset scopes t o n name k, Included files s offset scopes t ∧ t.Outlined o n ∧
    (o.commands n)[k]? = some (.label name) ∧ e = (dotted scopes name, offset + k)

theorem Tells.through {j : Nat} {scope : Text} {e : Text × Nat} (hpart : Part files s j scope t)
    (h : t.Tells files e) : s.Tells files (scope ++ Text.ofString "." ++ e.1, j + e.2) := by
  obtain ⟨offset, scopes, u, o, n, name, k, hinc, outlined, found, rfl⟩ := h
  exact ⟨j + offset, scope :: scopes, u, o, n, name, k, .through hpart hinc, outlined, found,
    Prod.ext rfl (Nat.add_assoc _ _ _).symm⟩

theorem tells_own {draft : Draft} (outlined : s.Outlined o first)
    (hdraft : readDraft files s.file s.text s.counter = .ok draft) {e : Text × Nat}
    (mem : e ∈ draft.labels.entries) : s.Tells files e := by
  have found := (readDraft_tabled hdraft).entry e.1 e.2 mem
  rw [← Array.getElem?_toList, (outlined.draft hdraft).2] at found
  exact ⟨0, [], s, o, first, e.1, e.2, .self s, outlined, found, Prod.ext rfl (Nat.zero_add _).symm⟩

theorem Fills.tells (h : s.Fills files first whole last) :
    ∀ e ∈ whole.labels.entries, s.Tells files e := by
  obtain ⟨depth, chain, file, text, counter⟩ := s
  induction depth generalizing chain file text counter first whole last with
  | zero => exact nomatch h.unit
  | succ depth ih =>
    obtain ⟨draft, o, hdraft, outlined, -, -⟩ := h.own
    have number := (outlined.draft hdraft).1
    obtain ⟨draft', hdraft', hparts⟩ := except_bind_eq_ok.mp h.unit
    cases hdraft.symm.trans hdraft'
    refine foldlM_keeps_after (P := fun so => ∀ e ∈ so.1.labels.entries, Tells files _ e) ?_
      (fun e mem => tells_own outlined hdraft mem) hparts
    rintro before inc after split ⟨held, counter'⟩ ⟨larger, reached⟩ hbefore old hstep e mem
    have hpart := Part.intro hdraft split hbefore
    obtain ⟨inner, hinner, happend⟩ := addInclude_eq_ok hstep
    obtain ⟨labels, hlabels, hresult⟩ := except_bind_eq_ok.mp happend
    cases hresult
    rw [(ScriptUnit.addLabels_entries hlabels).1] at mem
    rcases List.mem_append.mp mem with before | added
    · exact old e before
    · obtain ⟨e', inside, rfl⟩ := List.mem_map.mp added
      obtain ⟨n, unit, m, fills, -⟩ := h.part outlined hpart
      cases hinner.symm.trans fills.unit
      exact (ih _ _ _ _ fills e' inside).through hpart

end Source

/-! ## 5. Blocks of a program -/

/-- A block with the file that it is written in. -/
structure WrittenBlock where
  offset : Nat
  scopes : List Text
  file : Source
  block : Block
  deriving DecidableEq, Repr

/-- The block is written in a file that is read for a source, at its place among all commands. -/
def WrittenBlock.In (files : FileTree) (s : Source) (p : WrittenBlock) : Prop :=
  Included files s p.offset p.scopes p.file ∧
    ∃ o n, p.file.Outlined o n ∧ p.block ∈ o.blocks p.offset n

theorem Outline.EndsBefore.before {o o' : Outline} {i n i' n' : Nat} (h : o.EndsBefore i n i' n')
    {b c : Block} (hb : b ∈ o.blocks i n) (hc : c ∈ o'.blocks i' n') : b.Before c := by
  obtain ⟨place, number⟩ := h
  have last := places_of_mem hb
  have first := places_of_mem hc
  have most := number_of_mem hb
  have least := number_of_mem hc
  exact ⟨.inl (by omega), by omega⟩

/-- Of two blocks of an outline that are not the same one comes before the other. -/
theorem Outline.before_of_mem {o : Outline} {i n : Nat} {b c : Block} (hb : b ∈ o.blocks i n)
    (hc : c ∈ o.blocks i n) : b = c ∨ b.Before c ∨ c.Before b := by
  have both : Std.Symm fun b c : Block => b.Before c ∨ c.Before b := ⟨fun _ _ => Or.symm⟩
  have ordered : (o.blocks i n).Pairwise fun b c => b.Before c ∨ c.Before b :=
    (o.blocks_ordered i n).imp .inl
  rcases eq_or_ne b c with same | other
  · exact .inl same
  · exact .inr (ordered.forall hb hc other)

theorem WrittenBlock.In.before {files : FileTree} {s : Source} {first last : Nat}
    {whole : ScriptUnit} {p q : WrittenBlock} (fills : s.Fills files first whole last)
    (hp : p.In files s) (hq : q.In files s) :
    p = q ∨ p.block.Before q.block ∨ q.block.Before p.block := by
  obtain ⟨offset, scopes, file, b⟩ := p
  obtain ⟨offset', scopes', file', c⟩ := q
  obtain ⟨hinc, o, n, outlined, mem⟩ := hp
  obtain ⟨hinc', o', n', outlined', mem'⟩ := hq
  rcases fills.apart hinc hinc' outlined outlined' with ⟨rfl, rfl, rfl⟩ | before | before
  · cases outlined.outline.symm.trans outlined'.outline
    cases outlined.counter.symm.trans outlined'.counter
    exact (Outline.before_of_mem mem mem').imp_left fun same => congrArg _ same
  · exact .inr (.inl (before.before mem mem'))
  · exact .inr (.inr (before.before mem' mem))

/-! ## 6. Blocks in the commands of a program -/

/-- What a list gives, an array holds from a place on. -/
theorem extract_eq_map {α β : Type} {xs : List α} {ys : Array β} {f : α → β} {i j : Nat}
    (h : ∀ k c, xs[k]? = some c → ys[i + k]? = some (f c)) (stop : j = i + xs.length) :
    (ys.extract i j).toList = xs.map f := by
  refine List.ext_getElem? fun k => ?_
  rw [Array.getElem?_toList, Array.getElem?_extract, List.getElem?_map]
  cases found : xs[k]? with
  | none =>
    have behind := List.getElem?_eq_none_iff.mp found
    rw [if_neg (by omega)]
    rfl
  | some c =>
    have there := h k c found
    have inside := (List.getElem?_eq_some_iff.mp found).1
    have inside' := (Array.getElem?_eq_some_iff.mp there).1
    rw [if_pos (by omega), there]
    rfl

/-- A command of a file below scopes, as it stands in a program. -/
def Command.below (scopes : List Text) (c : Command) : Command :=
  c.mapTargets (linked scopes) (some (underScopes scopes))

theorem Outline.getElem?_of_mem {o : Outline} {i n : Nat} {b : Block} (mem : b ∈ o.blocks i n) :
    ∃ k, b.start = i + k ∧ ∀ m c, b.commands[m]? = some c → (o.commands n)[k + m]? = some c := by
  obtain ⟨front, back, split, start⟩ := mem_blocks mem
  refine ⟨front.length, start, fun m c found => ?_⟩
  have inside := (List.getElem?_eq_some_iff.mp found).1
  rw [split, List.append_assoc, List.getElem?_append_right (Nat.le_add_right _ _),
    Nat.add_sub_cancel_left, List.getElem?_append_left inside]
  exact found

namespace Block

variable {b : Block} {c : Command} {k : Nat}

theorem getElem?_opening : b.commands[0]? = some (b.head.opening b.number) := rfl

theorem getElem?_body (found : b.body[k]? = some c) : b.commands[1 + k]? = some c := by
  have inside := (List.getElem?_eq_some_iff.mp found).1
  rw [commands, List.cons_append, Nat.add_comm, List.getElem?_cons_succ,
    List.getElem?_append_left inside]
  exact found

theorem getElem?_closing :
    b.commands[b.body.length + 1]? = some (b.head.closing b.number) := by
  simp [commands]

end Block

/-- The label behind a check block, below scopes. -/
def Block.exit (scopes : List Text) (b : Block) : Text := dotted scopes (skipName b.number)

theorem Block.lastPart_exit (scopes : List Text) (b : Block) :
    (b.exit scopes).lastPart = skipName b.number := by
  rw [exit, Text.lastPart_dotted, lastPart_skipName]

/-- The block stands in the program: its body between the two commands that begin and end it, where
those of a check block are a jump and the label that the jump leads to. -/
structure Program.Shows (program : Program) (scopes : List Text) (b : Block) : Prop where
  start_lt : b.start < b.stop
  body : (program.commands.extract (b.start + 1) b.stop).toList =
    b.body.map (Command.below scopes)
  ends : match b.head with
    | .check name op value =>
      program.commands[b.start]? = some (.jumpIf name op.negate value (b.exit scopes)) ∧
        (b.exit scopes).Unmarked ∧ b.exit scopes ≠ inventoryToggle ∧
        program.labels.get? (b.exit scopes) = some b.stop ∧
        program.commands[b.stop]? = some (.label (b.exit scopes))
    | .loading text => program.commands[b.start]? = some (.beginLoading (some text)) ∧
        program.commands[b.stop]? = some .endLoading

/-- No scope of a file has the root mark, and no statement names a label like that of a check
block. -/
structure Source.TidyFile (files : FileTree) (s : Source) : Prop where
  scope : ∀ draft, readDraft files s.file s.text s.counter = .ok draft →
    ∀ inc ∈ draft.includes, inc.scope.Unmarked
  label : ∀ o, Outline.ofText s.file s.text = .ok o →
    ∀ name ∈ o.labels, (Text.lastPart name).startsWith Statement.checkMark = false

/-- All files that are read for a source are tidy. -/
def Source.Tidy (files : FileTree) (s : Source) : Prop :=
  ∀ offset scopes part, Included files s offset scopes part → part.TidyFile files

theorem Included.unmarked {files : FileTree} {s t : Source} {offset : Nat} {scopes : List Text}
    (hinc : Included files s offset scopes t) (tidy : s.Tidy files) :
    ∀ scope ∈ scopes, Text.startsWith scope rootMark = false := by
  induction hinc with
  | self => exact nofun
  | through hpart hinner ih =>
    intro scope mem
    rcases List.mem_cons.mp mem with rfl | mem
    · have own := tidy _ _ _ (.self _)
      cases hpart with
      | intro hdraft split =>
        exact own.scope _ hdraft _ (split ▸ List.mem_append_right _ List.mem_cons_self)
    · exact ih (fun _ _ _ h => tidy _ _ _ (.through hpart h)) scope mem

section

variable {files : FileTree} {strict : Bool} {first : Nat} {reached : Ordinal} {path source : Text}
  {program : Program}
  (h : Program.ofSource files strict (.nth first) path source = .ok (program, reached))
include h

/-- The outline of an included file, in line, stands in the program with its labels. -/
theorem Source.Outlined.inProgram {offset n : Nat} {scopes : List Text} {part : Source}
    {o : Outline} (outlined : part.Outlined o n)
    (hinc : Included files (.outermost files (.nth first) path source) offset scopes part)
    (hs : ∀ scope ∈ scopes, Text.startsWith scope rootMark = false) :
    (∀ k c, (o.commands n)[k]? = some c → program.commands[offset + k]? = some (c.below scopes)) ∧
    ∀ k name, (o.commands n)[k]? = some (.label name) → name ≠ unrecordedName →
      program.labels.get? (dotted scopes name) = some (offset + k) := by
  obtain ⟨unit, last, hunit, commands, labels⟩ := hinc.inProgram h hs
  obtain ⟨m, fills⟩ := Source.exists_fills outlined.counter hunit
  obtain ⟨draft, -, hdraft, -, larger, -⟩ := fills.own
  have own : ∀ k : Nat, (o.commands n)[k]? = draft.commands[k]? := by
    intro k
    rw [← (outlined.draft hdraft).2, Array.getElem?_toList]
  have tabled := readDraft_tabled hdraft
  refine ⟨fun k c found => ?_, fun k name found other => ?_⟩
  · rw [own] at found
    exact commands _ _ (larger.command found)
  · rw [own] at found
    have entry := Table.get?_of_mem tabled.keys (tabled.command name k found other)
    exact labels _ _ (larger.label _ _ entry)

/-- Every file that is read has an outline. -/
theorem Included.outlined {offset : Nat} {scopes : List Text} {part : Source}
    (hinc : Included files (.outermost files (.nth first) path source) offset scopes part) :
    ∃ o n, part.Outlined o n := by
  obtain ⟨unit, hunit, -⟩ := Program.ofSource_eq_ok h
  obtain ⟨last, fills⟩ := Source.exists_fills rfl hunit
  obtain ⟨n, inner, m, fills, -⟩ := fills.inside hinc
  obtain ⟨draft, o, -, outlined, -⟩ := fills.own
  exact ⟨o, n, outlined⟩

variable (tidy : (Source.outermost files (.nth first) path source).Tidy files)
include tidy

theorem WrittenBlock.In.shows {p : WrittenBlock}
    (hp : p.In files (.outermost files (.nth first) path source)) :
    program.Shows p.scopes p.block := by
  obtain ⟨offset, scopes, file, b⟩ := p
  obtain ⟨hinc, o, n, outlined, mem⟩ := hp
  have unmarked := hinc.unmarked tidy
  obtain ⟨commands, labels⟩ := outlined.inProgram h hinc unmarked
  obtain ⟨k, start, inline⟩ := Outline.getElem?_of_mem mem
  -- The block in the program, command by command.
  have stands : ∀ m c, b.commands[m]? = some c →
      program.commands[b.start + m]? = some (c.below scopes) := by
    intro m c found
    rw [start, Nat.add_assoc]
    exact commands _ _ (inline m c found)
  have opening := stands _ _ Block.getElem?_opening
  have closing := stands _ _ Block.getElem?_closing
  refine ⟨by rw [Block.stop]; omega, extract_eq_map (fun m c found => ?_) ?_, ?_⟩
  · rw [Nat.add_assoc]
    exact stands _ _ (Block.getElem?_body found)
  · rw [Block.stop]
    omega
  · obtain ⟨head, number, place, inside⟩ := b
    cases head with
    | loading text => exact ⟨opening, closing⟩
    | check name op value =>
      obtain ⟨plain, other, kept⟩ := skipName_plain number
      obtain ⟨plain', other'⟩ := dotted_plain unmarked plain other
      refine ⟨?_, plain', other', ?_, ?_⟩
      · rw [Block.exit, ← linked_of_plain plain other]
        exact opening
      · have label := labels _ _ (inline _ _ Block.getElem?_closing) kept
        rw [Block.exit, label, ← Nat.add_assoc, ← start]
        rfl
      · rw [Block.exit, ← underScopes_of_plain plain other]
        exact closing

/-- A label with the name of a check block is the end of one. -/
theorem Program.exists_block_of_label {name : Text} {i : Nat}
    (mem : (name, i) ∈ program.labels.entries)
    (mark : name.lastPart.startsWith Statement.checkMark) :
    ∃ p : WrittenBlock, p.In files (.outermost files (.nth first) path source) ∧
      p.block.head.numbers = 1 ∧ name = p.block.exit p.scopes ∧ i = p.block.stop := by
  obtain ⟨unit, hunit, same⟩ := ofSource_eq_ok h
  obtain ⟨last, fills⟩ := Source.exists_fills rfl hunit
  have labels : program.labels = unit.labels := by rw [same]
  have entry := Table.get?_of_mem (Source.pointed_of_unit hunit).keys (labels ▸ mem)
  obtain ⟨offset, scopes, file, o, n, own, k, hinc, outlined, found, named⟩ :=
    fills.tells _ (labels ▸ mem)
  obtain ⟨rfl, -⟩ := Prod.mk.inj named
  rw [Text.lastPart_dotted] at mark
  rcases Outline.label_of_mem offset (List.mem_of_getElem? found) with own | ⟨b, inside, check, rfl⟩
  · rw [(tidy _ _ _ hinc).label o outlined.outline _ own] at mark
    cases mark
  · have written : WrittenBlock.In files _ ⟨offset, scopes, file, b⟩ :=
      ⟨hinc, o, n, outlined, inside⟩
    refine ⟨⟨offset, scopes, file, b⟩, written, check, rfl, ?_⟩
    have ends := (written.shows h tidy).ends
    obtain ⟨head, number, place, body⟩ := b
    cases head with
    | loading text => cases check
    | check name op value =>
      have there := ends.2.2.2.1
      rw [labels] at there
      exact Option.some.inj (entry.symm.trans there)

end

/-! ## 7. Nesting -/

/-- Check blocks with one number are the same block. -/
theorem WrittenBlock.In.eq_of_number {files : FileTree} {s : Source} {first last : Nat}
    {whole : ScriptUnit} {p q : WrittenBlock} (fills : s.Fills files first whole last)
    (hp : p.In files s) (hq : q.In files s) (check : p.block.head.numbers = 1)
    (check' : q.block.head.numbers = 1) (same : p.block.number = q.block.number) : p = q := by
  rcases hp.before fills hq with equal | ⟨-, more⟩ | ⟨-, more⟩
  · exact equal
  · omega
  · omega

/-- Every file that is read has an outline, and every block of an outline stands in the program: a
check block as a jump, its body, and the label that the jump leads to, a loading block as its body
between two marks. Of two blocks one lies behind the other or inside it. Check blocks have different
numbers, and so have the labels with the name of a check block, for these are the ends of the check
blocks. -/
theorem blocks_nested {files : FileTree} {strict : Bool} {first : Nat} {reached : Ordinal}
    {path source : Text} {program : Program}
    (h : Program.ofSource files strict (.nth first) path source = .ok (program, reached))
    (tidy : (Source.outermost files (.nth first) path source).Tidy files) :
    (∀ offset scopes part,
      Included files (.outermost files (.nth first) path source) offset scopes part →
        ∃ o n, part.Outlined o n) ∧
    (∀ p : WrittenBlock, p.In files (.outermost files (.nth first) path source) →
      program.Shows p.scopes p.block) ∧
    (∀ p q : WrittenBlock, p.In files (.outermost files (.nth first) path source) →
      q.In files (.outermost files (.nth first) path source) →
      p = q ∨ p.block.stop < q.block.start ∨ q.block.stop < p.block.start ∨
        (p.block.start < q.block.start ∧ q.block.stop < p.block.stop) ∨
        (q.block.start < p.block.start ∧ p.block.stop < q.block.stop)) ∧
    (∀ p q : WrittenBlock, p.In files (.outermost files (.nth first) path source) →
      q.In files (.outermost files (.nth first) path source) →
      p.block.head.numbers = 1 → q.block.head.numbers = 1 → p.block.number = q.block.number →
      p = q) ∧
    (∀ name i, (name, i) ∈ program.labels.entries →
      name.lastPart.startsWith Statement.checkMark →
      ∃ p : WrittenBlock, p.In files (.outermost files (.nth first) path source) ∧
        p.block.head.numbers = 1 ∧ name = p.block.exit p.scopes ∧
        name.lastPart = skipName p.block.number ∧ i = p.block.stop) ∧
    ∀ e ∈ program.labels.entries, ∀ e' ∈ program.labels.entries,
      e.1.lastPart.startsWith Statement.checkMark → e.1.lastPart = e'.1.lastPart → e = e' := by
  obtain ⟨unit, hunit, -⟩ := Program.ofSource_eq_ok h
  obtain ⟨last, fills⟩ := Source.exists_fills rfl hunit
  have ends := @Program.exists_block_of_label _ _ _ _ _ _ _ h tidy
  refine ⟨fun offset scopes part hinc => hinc.outlined h, fun p hp => hp.shows h tidy,
    fun p q hp hq => ?_, fun p q hp hq => hp.eq_of_number fills hq, fun name i mem mark => ?_,
    fun e mem e' mem' mark same => ?_⟩
  · rcases hp.before fills hq with equal | ⟨place, -⟩ | ⟨place, -⟩
    · exact .inl equal
    · exact .inr (place.elim .inl fun nested => .inr (.inr (.inl nested)))
    · refine .inr (place.elim (fun behind => .inr (.inl behind)) fun nested => ?_)
      exact .inr (.inr (.inr nested))
  · obtain ⟨p, hp, check, rfl, rfl⟩ := ends mem mark
    exact ⟨p, hp, check, rfl, Block.lastPart_exit _ _, rfl⟩
  · obtain ⟨p, hp, check, named, place⟩ := ends mem mark
    obtain ⟨q, hq, check', named', place'⟩ := ends mem' (same ▸ mark)
    rw [named, named', Block.lastPart_exit, Block.lastPart_exit] at same
    obtain rfl := hp.eq_of_number fills hq check check' (skipName_injective same)
    exact Prod.ext (named.trans named'.symm) (place.trans place'.symm)

/-- Two files with blocks inside blocks. -/
def deepFiles : FileTree :=
  ⟨⟨[("/main.vn",
      .file "include \"a.vn\" as a; loading \"L\" \x7b check x > 5 \x7b \"In.\"; \x7d \x7d"),
    ("/a.vn", .file "check y > 5 \x7b check z > 5 \x7b \"Deep.\"; \x7d \x7d")]⟩⟩

/-- The text of the outermost of the two. -/
def deepSource : Text := (deepFiles.read "/main.vn").toOption.getD []

/-- The file that it includes. -/
def deepPart : Source := .part deepFiles 2 ["/main.vn"] "/a.vn" (.nth 1)

/-- The inner block of this file. -/
def deepBlock : WrittenBlock where
  offset := 5
  scopes := ["a"]
  file := deepPart
  block := ⟨.check "z" .gt (.literal (.num 5.0)), 3, 6, .command (.say none "Deep.") .done⟩

theorem blocks_nested_deep :
    ∃ program reached,
      Program.ofSource deepFiles true (.nth 0) "/main.vn" deepSource = .ok (program, reached) ∧
      (Source.outermost deepFiles (.nth 0) "/main.vn" deepSource).Tidy deepFiles ∧
      deepBlock.In deepFiles (.outermost deepFiles (.nth 0) "/main.vn" deepSource) ∧
      program.commands[6]? =
        some (.jumpIf "z" .le (.literal (.num 5.0)) "a.__check_skip_3") ∧
      (program.commands.extract 7 8).toList = [.say none "Deep."] ∧
      program.labels.get? "a.__check_skip_3" = some 8 := by
  obtain ⟨⟨program, reached⟩, hprogram, -⟩ := exists_ok (f := fun _ => ()) (b := ())
    (x := Program.ofSource deepFiles true (.nth 0) "/main.vn" deepSource) (by decide +kernel)
  obtain ⟨outer, houter, ho⟩ := exists_ok
    (f := fun d => (d.includes, d.commands.size, d.counter)) (b := ([⟨"/a.vn", "a"⟩], 5, .nth 1))
    (x := readDraft deepFiles "/main.vn" deepSource (.nth 0)) (by decide +kernel)
  obtain ⟨inner, hinner, hi⟩ := exists_ok (f := fun d => d.includes) (b := [])
    (x := readDraft deepFiles deepPart.file deepPart.text deepPart.counter) (by decide +kernel)
  obtain ⟨o, hout, labels⟩ := exists_ok (f := Outline.labels) (b := [])
    (x := Outline.ofText "/main.vn" deepSource) (by decide +kernel)
  obtain ⟨o', hout', ho'⟩ := exists_ok
    (f := fun o => (o.labels, decide (deepBlock.block ∈ o.blocks 5 1))) (b := ([], true))
    (x := Outline.ofText deepPart.file deepPart.text) (by decide +kernel)
  obtain ⟨includes, size, counter⟩ : outer.includes = _ ∧ outer.commands.size = _ ∧
    outer.counter = _ := by simpa using ho
  obtain ⟨labels', block⟩ : o'.labels = _ ∧ deepBlock.block ∈ o'.blocks 5 1 := by simpa using ho'
  have start : Source.outermost deepFiles (.nth 0) "/main.vn" deepSource =
    ⟨2 + 1, ["/main.vn"], "/main.vn", deepSource, .nth 0⟩ := by decide +kernel
  have tidy : (Source.outermost deepFiles (.nth 0) "/main.vn" deepSource).Tidy deepFiles := by
    rw [start]
    refine Included.forall_of_single (P := fun t => t.TidyFile deepFiles) houter ⟨?_, ?_⟩ includes
      (by decide) fun inc mem => ?_
    · intro draft hdraft
      cases houter.symm.trans hdraft
      rw [includes]
      decide
    · intro o₁ outline
      cases hout.symm.trans outline
      rw [labels]
      exact nofun
    · rw [List.mem_singleton.mp mem, counter]
      refine Included.forall_of_single (P := fun t => t.TidyFile deepFiles) hinner ⟨?_, ?_⟩ hi
        (by decide) nofun
      · intro draft hdraft
        cases hinner.symm.trans hdraft
        rw [hi]
        exact nofun
      · intro o₁ outline
        cases hout'.symm.trans outline
        rw [labels']
        exact nofun
  have written : deepBlock.In deepFiles (.outermost deepFiles (.nth 0) "/main.vn" deepSource) := by
    rw [start]
    exact ⟨.through (.first houter includes size counter) (.self _), o', 1, ⟨rfl, hout'⟩, block⟩
  obtain ⟨-, shown, -⟩ := blocks_nested hprogram tidy
  obtain ⟨-, body, opening, -, -, label, -⟩ := shown deepBlock written
  have exit : deepBlock.block.exit deepBlock.scopes = "a.__check_skip_3" := by decide +kernel
  rw [exit] at opening label
  exact ⟨program, reached, hprogram, tidy, written, opening, body, label⟩

end VisualNovel
