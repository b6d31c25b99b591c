import Mathlib.Logic.Relation
import VisualNovel.Proofs.FileTree
import VisualNovel.Proofs.Script.Numbering

/-!
Includes come to an end.

A file is read below the files that led to it, and each of these is another file of the tree, so the
chain of them is no longer than the tree has files (`Source.Opened.length_le`). This is what ends
the reading: the bound on includes within includes is never met, and a larger one changes nothing
(`Source.unit_deeper`). What a file includes does not depend on where it is included, so the files
make a graph (`Links`). Reading walks along this graph: where it succeeds it has walked everywhere
and come back nowhere (`Source.Opened.acyclic`), and where it fails it stands at a file that it
walked to (`Source.exists_breaks`).
-/

namespace VisualNovel

open Relation (ReflTransGen TransGen)

/-! ## 1. The graph of includes -/

/-- The text of a file that a script leads to, where the script has a text of its own. -/
def scriptText (files : FileTree) (script source path : Text) : Text :=
  if path = script then source else (files.read path).toOption.getD []

/-- The file can be read on its own. -/
def Accepted (files : FileTree) (script source path : Text) : Prop :=
  ∃ counter draft, readDraft files path (scriptText files script source path) counter = .ok draft

/-- The file can be read on its own, and it includes the other one. -/
def Links (files : FileTree) (script source path other : Text) : Prop :=
  ∃ counter draft, readDraft files path (scriptText files script source path) counter = .ok draft ∧
    ∃ inc ∈ draft.includes, inc.path = other

/-- A script leads to a file. -/
abbrev LeadsTo (files : FileTree) (script source path : Text) : Prop :=
  ReflTransGen (Links files script source) script path

/-- A file includes itself, directly or through others. -/
abbrev Recurs (files : FileTree) (script source path : Text) : Prop :=
  TransGen (Links files script source) path path

/-- A file is read as part of another one: it is not on the way to it yet. -/
def Source.Enters (files : FileTree) (s t : Source) : Prop :=
  ∃ offset scope, Part files s offset scope t ∧ t.file ∉ s.chain

/-- What a file includes does not depend on the number of its first check block. -/
theorem links_iff {files : FileTree} {script source path other : Text} {counter : Ordinal}
    {draft : Draft}
    (hdraft : readDraft files path (scriptText files script source path) counter = .ok draft) :
    Links files script source path other ↔ other ∈ draft.includes.map (·.path) := by
  rw [List.mem_map]
  refine ⟨fun ⟨counter', draft', hdraft', inc, mem, same⟩ => ?_,
    fun ⟨inc, mem, same⟩ => ⟨counter, draft, hdraft, inc, mem, same⟩⟩
  rcases readDraft_renumbered hdraft' counter with ⟨e, he, includes⟩ | ⟨f, hf, -⟩
  · cases hdraft.symm.trans he
    exact ⟨inc, includes ▸ mem, same⟩
  · cases hdraft.symm.trans hf

namespace Source

variable {files : FileTree} {script source : Text} {s t : Source}

/-! ## 2. Files on the way -/

/-- The way to a file: it begins at the script, goes through different files of the tree, and
follows the graph. -/
structure Opened (files : FileTree) (script source : Text) (s : Source) : Prop where
  chain : ∃ rest, s.chain = script :: rest ∧ ∀ p ∈ rest, files.isFile p ∧ Path.absolute p = p
  distinct : s.chain.Nodup
  file : s.file ∈ s.chain
  text : s.text = scriptText files script source s.file
  walk : ∀ p ∈ s.chain, LeadsTo files script source p ∧
    ReflTransGen (Links files script source) p s.file

theorem opened_outermost (files : FileTree) (script source : Text) (depth : Nat)
    (counter : Ordinal) : Opened files script source ⟨depth, [script], script, source, counter⟩ where
  chain := ⟨[], rfl, nofun⟩
  distinct := List.nodup_singleton script
  file := List.mem_singleton_self script
  text := (if_pos rfl).symm
  walk p mem := by
    rw [List.mem_singleton.mp mem]
    exact ⟨.refl, .refl⟩

namespace Opened

variable {draft : Draft} {inc : Include} (h : s.Opened files script source)
include h

/-- The files on the way are different ones, and all but the script are in the tree. -/
theorem length_le : s.chain.length ≤ files.fileCount + 1 := by
  obtain ⟨rest, chain, there⟩ := h.chain
  have distinct := h.distinct
  rw [chain] at distinct ⊢
  exact Nat.succ_le_succ (FileTree.length_le_fileCount distinct.of_cons there)

theorem link (hdraft : readDraft files s.file s.text s.counter = .ok draft)
    (mem : inc ∈ draft.includes) : Links files script source s.file inc.path :=
  ⟨s.counter, draft, h.text ▸ hdraft, inc, mem, rfl⟩

/-- One step further, to a file that is not on the way. -/
theorem part (hdraft : readDraft files s.file s.text s.counter = .ok draft)
    (mem : inc ∈ draft.includes) (new : inc.path ∉ s.chain) (depth : Nat) (reached : Ordinal) :
    (Source.part files depth s.chain inc.path reached).Opened files script source := by
  obtain ⟨rest, chain, there⟩ := h.chain
  have sound := readDraft_sound hdraft
  have link := h.link hdraft mem
  have other : inc.path ≠ script := by
    rintro rfl
    exact new (chain ▸ List.mem_cons_self)
  refine ⟨⟨rest ++ [inc.path], ?_, ?_⟩, ?_, ?_, ?_, ?_⟩
  · simp [Source.part, chain]
  · intro p mem'
    rcases List.mem_append.mp mem' with old | last
    · exact there p old
    · rw [List.mem_singleton.mp last]
      exact ⟨(sound.includes inc mem).1, sound.absolute inc mem⟩
  · rw [Source.part, List.nodup_append]
    refine ⟨h.distinct, List.nodup_singleton _, fun p old q last same => new ?_⟩
    rw [← List.mem_singleton.mp last, ← same]
    exact old
  · exact List.mem_append_right _ (List.mem_singleton_self _)
  · exact (if_neg other).symm
  · intro p mem'
    rcases List.mem_append.mp mem' with old | last
    · exact ⟨(h.walk p old).1, (h.walk p old).2.tail link⟩
    · rw [List.mem_singleton.mp last]
      exact ⟨(h.walk s.file h.file).1.tail link, .refl⟩

end Opened

theorem Enters.inv (h : s.Enters files t) :
    ∃ depth draft inc reached, s.depth = depth + 1 ∧
      readDraft files s.file s.text s.counter = .ok draft ∧ inc ∈ draft.includes ∧
      inc.path ∉ s.chain ∧ t = part files depth s.chain inc.path reached := by
  obtain ⟨offset, scope, hpart, new⟩ := h
  cases hpart with
  | intro hdraft split hbefore =>
    exact ⟨_, _, _, _, rfl, hdraft, split ▸ List.mem_append_right _ List.mem_cons_self, new, rfl⟩

theorem Opened.enter (h : s.Opened files script source) (enters : s.Enters files t) :
    t.Opened files script source := by
  obtain ⟨depth, draft, inc, reached, -, hdraft, mem, new, rfl⟩ := enters.inv
  exact h.part hdraft mem new depth reached

theorem Opened.entered (h : s.Opened files script source)
    (enters : ReflTransGen (Enters files) s t) : t.Opened files script source := by
  induction enters with
  | refl => exact h
  | tail _ step ih => exact ih.enter step

theorem Enters.chain_eq (h : s.Enters files t) : t.chain = s.chain ++ [t.file] := by
  obtain ⟨depth, draft, inc, reached, -, -, -, -, rfl⟩ := h.inv
  rfl

/-- What the bound loses, the way gains. -/
theorem depth_add_length (h : ReflTransGen (Enters files) s t) :
    t.depth + t.chain.length = s.depth + s.chain.length := by
  induction h with
  | refl => rfl
  | tail _ step ih =>
    obtain ⟨depth, draft, inc, reached, bound, -, -, -, rfl⟩ := step.inv
    rw [← ih, bound, part]
    simp only [List.length_append, List.length_singleton]
    omega

theorem chain_subset (h : ReflTransGen (Enters files) s t) : s.chain ⊆ t.chain := by
  induction h with
  | refl => exact List.Subset.refl _
  | tail _ step ih =>
    rw [step.chain_eq]
    exact List.Subset.trans ih (List.subset_append_left _ _)

/-- No way comes back to a file on it. -/
theorem not_mem_chain (h : TransGen (Enters files) s t) : t.file ∉ s.chain := by
  obtain ⟨u, way, step⟩ := TransGen.tail'_iff.mp h
  obtain ⟨offset, scope, -, new⟩ := step
  exact fun mem => new (chain_subset way mem)

/-! ## 3. The bound on includes within includes -/

variable {depth : Nat} {chain : List Text} {file text : Text} {counter : Ordinal}

theorem addInclude_known {inc : Include} (known : inc.path ∈ chain) (so : ScriptUnit × Ordinal) :
    addInclude files depth chain file so inc =
      .error { cause := .script (.includeCycle (chain ++ [inc.path])), file := some file } := by
  unfold addInclude
  rw [if_pos (List.contains_iff_mem.mpr known)]
  rfl

theorem addInclude_new {inc : Include} (new : inc.path ∉ chain) (so : ScriptUnit × Ordinal) :
    addInclude files depth chain file so inc =
      ((part files depth chain inc.path so.2).unit files >>= fun r =>
        so.1.append file inc.scope r.1 >>= fun whole => .ok (whole, r.2)) := by
  unfold addInclude
  rw [if_neg fun known => new (List.contains_iff_mem.mp known)]
  rfl

theorem foldlM_congr {ε α β : Type} {f g : β → α → Except ε β} {xs : List α}
    (step : ∀ x ∈ xs, ∀ s, f s x = g s x) (s : β) : xs.foldlM f s = xs.foldlM g s := by
  induction xs generalizing s with
  | nil => rfl
  | cons x xs ih =>
    rw [List.foldlM_cons, List.foldlM_cons, step x List.mem_cons_self s]
    exact congrArg _ (funext fun t => ih (fun y mem => step y (List.mem_cons_of_mem x mem)) t)

/-- Where the bound leaves room for every file of the tree, another such bound does the same. -/
theorem unit_deeper {bound : Nat} (h : Opened files script source ⟨bound, chain, file, text, counter⟩)
    (enough : files.fileCount + 2 ≤ bound + chain.length)
    (room : files.fileCount + 2 ≤ depth + chain.length) :
    unit files ⟨depth, chain, file, text, counter⟩ =
      unit files ⟨bound, chain, file, text, counter⟩ := by
  induction bound generalizing chain file text counter depth with
  | zero =>
    have := h.length_le
    simp only at this
    omega
  | succ bound ih =>
    cases depth with
    | zero =>
      have := h.length_le
      simp only at this
      omega
    | succ depth =>
      rw [unit_succ, unit_succ]
      cases hdraft : readDraft files file text counter with
      | error f => rfl
      | ok draft =>
        refine foldlM_congr (fun inc mem so => ?_) _
        by_cases known : inc.path ∈ chain
        · rw [addInclude_known known, addInclude_known known]
        · have inner : Opened files script source ⟨bound, chain ++ [inc.path], _, _, so.2⟩ :=
            h.part hdraft mem known bound so.2
          have longer : (chain ++ [inc.path]).length = chain.length + 1 := by simp
          rw [addInclude_new known, addInclude_new known]
          unfold part
          rw [ih inner (by omega) (by omega)]

/-! ## 4. Where a reading succeeds -/

theorem Part.new {offset : Nat} {scope : Text} (hpart : Part files s offset scope t)
    {r : ScriptUnit × Ordinal} (hread : s.unit files = .ok r) : t.file ∉ s.chain := by
  cases hpart with
  | @intro depth chain file text counter reached draft before after inc whole hdraft split hbefore =>
    rw [unit_succ, hdraft] at hread
    change draft.includes.foldlM _ _ = _ at hread
    rw [split, List.foldlM_append] at hread
    obtain ⟨first, hbefore', hrest⟩ := except_bind_eq_ok.mp hread
    rw [List.foldlM_cons] at hrest
    obtain ⟨next, hstep, -⟩ := except_bind_eq_ok.mp hrest
    intro known
    rw [addInclude_known known] at hstep
    cases hstep

/-- What a file includes in the graph, it includes where it is read. -/
theorem Opened.follow (h : s.Opened files script source) {r : ScriptUnit × Ordinal}
    (hread : s.unit files = .ok r) {other : Text} (link : Links files script source s.file other) :
    ∃ t r', s.Enters files t ∧ t.file = other ∧ t.unit files = .ok r' := by
  obtain ⟨depth, chain, file, text, counter⟩ := s
  cases depth with
  | zero => cases hread
  | succ depth =>
    have hread' := hread
    rw [unit_succ] at hread'
    obtain ⟨draft, hdraft, -⟩ := except_bind_eq_ok.mp hread'
    have own := hdraft
    rw [show text = scriptText files script source file from h.text] at own
    obtain ⟨inc, mem, rfl⟩ := List.mem_map.mp ((links_iff own).mp link)
    obtain ⟨offset, t, hpart, hfile⟩ := exists_part hread hdraft mem
    obtain ⟨inner, last, hinner, -⟩ := hpart.holds hread
    exact ⟨t, _, ⟨offset, _, hpart, Part.new hpart hread⟩, hfile, hinner⟩

theorem Opened.follows (h : s.Opened files script source) {r : ScriptUnit × Ordinal}
    (hread : s.unit files = .ok r) {other : Text}
    (way : ReflTransGen (Links files script source) s.file other) :
    ∃ t r', ReflTransGen (Enters files) s t ∧ t.file = other ∧ t.unit files = .ok r' := by
  induction way with
  | refl => exact ⟨s, r, .refl, rfl, hread⟩
  | tail _ link ih =>
    obtain ⟨t, r', entered, rfl, hread'⟩ := ih
    obtain ⟨u, r'', enters, hfile, hread''⟩ := (h.entered entered).follow hread' link
    exact ⟨u, r'', entered.tail enters, hfile, hread''⟩

/-- No file that is read includes itself. -/
theorem Opened.acyclic (h : s.Opened files script source) {r : ScriptUnit × Ordinal}
    (hread : s.unit files = .ok r) {other : Text}
    (way : ReflTransGen (Links files script source) s.file other) :
    ¬ Recurs files script source other := by
  obtain ⟨t, r', entered, rfl, hread'⟩ := h.follows hread way
  intro recurs
  have there := h.entered entered
  obtain ⟨next, link, back⟩ := TransGen.head'_iff.mp recurs
  obtain ⟨u, r'', enters, rfl, hread''⟩ := there.follow hread' link
  obtain ⟨v, -, way', hfile, -⟩ := (there.enter enters).follows hread'' back
  refine not_mem_chain (TransGen.head' enters way') ?_
  rw [hfile]
  exact there.file

/-! ## 5. Where a reading fails -/

/-- Why the reading of a file fails while it stands at this very file. -/
def Breaks (files : FileTree) (t : Source) (f : Fault) : Prop :=
  (t.depth = 0 ∧ f.cause = .script .stalled) ∨
  readDraft files t.file t.text t.counter = .error f ∨
  (∃ draft, readDraft files t.file t.text t.counter = .ok draft ∧
    ∃ inc ∈ draft.includes, inc.path ∈ t.chain ∧
      f.cause = .script (.includeCycle (t.chain ++ [inc.path]))) ∨
  f.Duplicates

theorem duplicates_of_addLabels {scope : Text} {offset : Nat} {added : List (Text × Nat)}
    {labels : Table Nat} {f : Fault}
    (h : ScriptUnit.addLabels file scope offset added labels = .error f) : f.Duplicates := by
  induction added generalizing labels with
  | nil => cases h
  | cons entry rest ih =>
    obtain ⟨name, index⟩ := entry
    simp only [ScriptUnit.addLabels] at h
    split at h
    · cases h
      exact ⟨_, rfl⟩
    · exact ih h

theorem duplicates_of_append {scope : Text} {whole part : ScriptUnit} {f : Fault}
    (h : whole.append file scope part = .error f) : f.Duplicates := by
  unfold ScriptUnit.append at h
  cases hlabels : ScriptUnit.addLabels file scope whole.commands.size part.labels.entries
      whole.labels with
  | error g =>
    simp only [hlabels] at h
    cases h
    exact duplicates_of_addLabels hlabels
  | ok labels =>
    simp only [hlabels] at h
    cases h

theorem foldlM_eq_error {ε α β : Type} {f : β → α → Except ε β} {xs : List α} {s : β} {e : ε}
    (h : xs.foldlM f s = .error e) : ∃ before x after t, xs = before ++ x :: after ∧
      before.foldlM f s = .ok t ∧ f t x = .error e := by
  induction xs generalizing s with
  | nil => cases h
  | cons x xs ih =>
    rw [List.foldlM_cons] at h
    cases hx : f s x with
    | error e' =>
      rw [hx] at h
      cases h
      exact ⟨[], x, xs, s, rfl, rfl, hx⟩
    | ok t =>
      rw [hx] at h
      obtain ⟨before, y, after, u, rfl, hbefore, hy⟩ := ih h
      refine ⟨x :: before, y, after, u, rfl, ?_, hy⟩
      rw [List.foldlM_cons, hx]
      exact hbefore

theorem exists_breaks {f : Fault} (h : s.unit files = .error f) :
    ∃ t, ReflTransGen (Enters files) s t ∧ t.Breaks files f := by
  obtain ⟨depth, chain, file, text, counter⟩ := s
  induction depth generalizing chain file text counter with
  | zero =>
    cases h
    exact ⟨_, .refl, .inl ⟨rfl, rfl⟩⟩
  | succ depth ih =>
    rw [unit_succ] at h
    cases hdraft : readDraft files file text counter with
    | error g =>
      rw [hdraft] at h
      cases h
      exact ⟨_, .refl, .inr (.inl hdraft)⟩
    | ok draft =>
      rw [hdraft] at h
      obtain ⟨before, inc, after, ⟨whole, reached⟩, split, hbefore, hstep⟩ := foldlM_eq_error h
      have mem : inc ∈ draft.includes := split ▸ List.mem_append_right _ List.mem_cons_self
      by_cases known : inc.path ∈ chain
      · rw [addInclude_known known] at hstep
        cases hstep
        exact ⟨_, .refl, .inr (.inr (.inl ⟨draft, hdraft, inc, mem, known, rfl⟩))⟩
      · rw [addInclude_new known] at hstep
        cases hinner : (part files depth chain inc.path reached).unit files with
        | error g =>
          simp only at hstep
          rw [hinner] at hstep
          cases hstep
          obtain ⟨t, entered, breaks⟩ := ih _ _ _ _ hinner
          exact ⟨t, .head ⟨_, _, .intro hdraft split hbefore, known⟩ entered, breaks⟩
        | ok r =>
          simp only at hstep
          rw [hinner] at hstep
          cases happend : whole.append file inc.scope r.1 with
          | error g =>
            change (whole.append file inc.scope r.1 >>= _) = _ at hstep
            rw [happend] at hstep
            cases hstep
            exact ⟨_, .refl, .inr (.inr (.inr (duplicates_of_append happend)))⟩
          | ok larger =>
            change (whole.append file inc.scope r.1 >>= _) = _ at hstep
            rw [happend] at hstep
            cases hstep

/-- The outermost file fails at a file on some way, while the bound has room for another one. -/
theorem outermost_breaks {path : Text} {f : Fault}
    (h : (outermost files counter path source).unit files = .error f) :
    ∃ t : Source, t.Opened files (Path.absolute path) source ∧ t.Breaks files f ∧ t.depth ≠ 0 := by
  obtain ⟨t, entered, breaks⟩ := exists_breaks h
  have there := (opened_outermost files _ source _ counter).entered entered
  have room := depth_add_length entered
  have short := there.length_le
  simp only [outermost, List.length_singleton] at room
  exact ⟨t, there, breaks, by omega⟩

end Source

/-! ## 6. Programs -/

section

variable {files : FileTree} {strict : Bool} {counter : Ordinal} {path source : Text} {f : Fault}

/-- A script is refused where one of its files is, or because a target has no label. -/
theorem Program.ofSource_eq_error (h : ofSource files strict counter path source = .error f) :
    (Source.outermost files counter path source).unit files = .error f ∨
      ∃ target word, f.cause = .script (.unknownLabel target word) := by
  unfold ofSource at h
  change ((Source.outermost files counter path source).unit files >>= _) = _ at h
  cases hunit : (Source.outermost files counter path source).unit files with
  | error g =>
    rw [hunit] at h
    cases h
    exact .inl rfl
  | ok r =>
    rw [hunit] at h
    right
    cases strict with
    | false => cases h
    | true =>
      simp only [Except.bind, bind, ↓reduceIte] at h
      unfold checkTargets at h
      simp only at h
      split at h
      · next f' hf =>
        cases h
        split at hf
        · cases hf
          exact ⟨_, _, rfl⟩
        · cases hf
      · cases h

/-- Whatever is wrong with a script, it is a fault of the script. -/
theorem Program.script_of_ofSource_error (h : ofSource files strict counter path source = .error f) :
    ∃ problem, f.cause = .script problem := by
  rcases ofSource_eq_error h with hunit | ⟨target, word, unknown⟩
  · obtain ⟨t, -, breaks, -⟩ := Source.outermost_breaks hunit
    rcases breaks with ⟨-, stalled⟩ | hdraft | ⟨-, -, inc, -, -, cycle⟩ | ⟨name, twice⟩
    · exact ⟨_, stalled⟩
    · rcases readDraft_error hdraft with ⟨stalled, -⟩ | ⟨problem, own, -⟩
      · exact ⟨_, stalled⟩
      · exact ⟨_, own⟩
    · exact ⟨_, cycle⟩
    · exact ⟨_, twice⟩
  · exact ⟨_, unknown⟩

theorem Program.ofSource_of_unit_error
    (h : (Source.outermost files counter path source).unit files = .error f) :
    ofSource files strict counter path source = .error f := by
  unfold ofSource
  change ((Source.outermost files counter path source).unit files >>= _) = _
  rw [h]
  rfl

/-- A script stalls only where the lexer does so on a file that the script leads to. -/
theorem lexer_stalls (h : Program.ofSource files strict counter path source = .error f)
    (stalled : f.cause = .script .stalled) :
    ∃ file, LeadsTo files (Path.absolute path) source file ∧
      tokenize (scriptText files (Path.absolute path) source file) (some file) = .error f := by
  rcases Program.ofSource_eq_error h with hunit | ⟨target, word, unknown⟩
  · obtain ⟨t, there, breaks, room⟩ := Source.outermost_breaks hunit
    rcases breaks with ⟨none, -⟩ | hdraft | ⟨-, -, inc, -, -, cycle⟩ | ⟨name, twice⟩
    · exact absurd none room
    · rw [there.text] at hdraft
      refine ⟨t.file, (there.walk _ there.file).1, ?_⟩
      rcases readDraft_error hdraft with ⟨-, lexed⟩ | ⟨problem, own, isLocal⟩
      · exact lexed
      · rw [stalled] at own
        cases own
        exact isLocal.elim
    · rw [stalled] at cycle
      cases cycle
    · rw [stalled] at twice
      cases twice
  · rw [stalled] at unknown
    cases unknown

/-- Files that can all be read on their own, and one of which includes itself. -/
theorem cycle_refused
    (accepted : ∀ file, LeadsTo files (Path.absolute path) source file →
      Accepted files (Path.absolute path) source file) {file : Text}
    (leads : LeadsTo files (Path.absolute path) source file)
    (recurs : Recurs files (Path.absolute path) source file) :
    ∃ f, Program.ofSource files strict counter path source = .error f ∧
      ((∃ chain, f.cause = .script (.includeCycle chain)) ∨ f.Duplicates) := by
  have start := Source.opened_outermost files (Path.absolute path) source (files.fileCount + 1) counter
  cases hunit : (Source.outermost files counter path source).unit files with
  | ok r => exact (start.acyclic hunit leads recurs).elim
  | error f =>
    refine ⟨f, Program.ofSource_of_unit_error hunit, ?_⟩
    obtain ⟨t, there, breaks, room⟩ := Source.outermost_breaks hunit
    rcases breaks with ⟨none, -⟩ | hdraft | ⟨-, -, inc, -, -, cycle⟩ | twice
    · exact absurd none room
    · -- On its own the file can be read, so only the number of a check block stands in the way.
      obtain ⟨alone, draft, haccepted⟩ := accepted t.file (there.walk _ there.file).1
      rw [← there.text] at haccepted
      rcases readDraft_renumbered haccepted t.counter with ⟨e, he, -⟩ | ⟨g, hg, twice⟩
      · cases hdraft.symm.trans he
      · cases hdraft.symm.trans hg
        exact .inr twice
    · exact .inl ⟨_, cycle⟩
    · exact .inr twice

/-- A cycle that is reported is there. -/
theorem recurs_of_includeCycle (h : Program.ofSource files strict counter path source = .error f)
    {chain : List Text} (cycle : f.cause = .script (.includeCycle chain)) :
    ∃ file, LeadsTo files (Path.absolute path) source file ∧
      Recurs files (Path.absolute path) source file := by
  rcases Program.ofSource_eq_error h with hunit | ⟨target, word, unknown⟩
  · obtain ⟨t, there, breaks, room⟩ := Source.outermost_breaks hunit
    rcases breaks with ⟨none, -⟩ | hdraft | ⟨draft, hdraft, inc, mem, known, -⟩ | ⟨name, twice⟩
    · exact absurd none room
    · rcases readDraft_error hdraft with ⟨stalled, -⟩ | ⟨problem, own, isLocal⟩
      · rw [cycle] at stalled
        cases stalled
      · rw [cycle] at own
        cases own
        exact isLocal.elim
    · obtain ⟨leads, way⟩ := there.walk _ known
      exact ⟨inc.path, leads, TransGen.tail' way (there.link hdraft mem)⟩
    · rw [cycle] at twice
      cases twice
  · rw [cycle] at unknown
    cases unknown

end

/-- Reading a script comes to an end for every tree of files. The bound on includes within includes
is never met: every larger one gives the same, no file is read below more others than there are in
the tree, and a reading that stalls does so in the lexer. Where all files that the script leads to
can be read on their own, it is refused if one of them includes itself, unless a label that is not
new comes first; and a cycle is never reported where there is none, however often a file is
included. -/
theorem includes_come_to_an_end (files : FileTree) (strict : Bool) (counter : Ordinal)
    (path source : Text) :
    (∀ depth, files.fileCount < depth →
      readUnit files depth [Path.absolute path] (Path.absolute path) source counter =
        readUnit files (files.fileCount + 1) [Path.absolute path] (Path.absolute path) source
          counter) ∧
    (∀ depth t, ReflTransGen (Source.Enters files)
        ⟨depth, [Path.absolute path], Path.absolute path, source, counter⟩ t →
      t.chain.length ≤ files.fileCount + 1) ∧
    (∀ f, Program.ofSource files strict counter path source = .error f →
      f.cause = .script .stalled →
      ∃ file, LeadsTo files (Path.absolute path) source file ∧
        tokenize (scriptText files (Path.absolute path) source file) (some file) = .error f) ∧
    ((∀ file, LeadsTo files (Path.absolute path) source file →
        Accepted files (Path.absolute path) source file) →
      (∃ file, LeadsTo files (Path.absolute path) source file ∧
        Recurs files (Path.absolute path) source file) →
      ∃ f, Program.ofSource files strict counter path source = .error f ∧
        ((∃ chain, f.cause = .script (.includeCycle chain)) ∨ f.Duplicates)) ∧
    ((∀ file, LeadsTo files (Path.absolute path) source file →
        ¬ Recurs files (Path.absolute path) source file) →
      ∀ f chain, Program.ofSource files strict counter path source = .error f →
        f.cause ≠ .script (.includeCycle chain)) := by
  have start := fun depth =>
    Source.opened_outermost files (Path.absolute path) source depth counter
  refine ⟨fun depth more => ?_, fun depth t entered => ((start depth).entered entered).length_le,
    fun f => lexer_stalls, ?_, ?_⟩
  · exact Source.unit_deeper (start _) (by simp) (by simp; omega)
  · rintro accepted ⟨file, leads, recurs⟩
    exact cycle_refused accepted leads recurs
  · intro acyclic f chain h cycle
    obtain ⟨file, leads, recurs⟩ := recurs_of_includeCycle h cycle
    exact acyclic file leads recurs

/-- A script, and two files that include each other. -/
def ringFiles : FileTree :=
  ⟨⟨[("/main.vn", .file "include \"a.vn\" as a; go a.x;"),
    ("/a.vn", .file "include \"b.vn\" as b; label x: \"A.\";"),
    ("/b.vn", .file "include \"a.vn\" as a; label y: \"B.\";")]⟩⟩

/-- The text of the script. -/
def ringSource : Text := (ringFiles.read "/main.vn").toOption.getD []

theorem includes_come_to_an_end_ring :
    (∀ file, LeadsTo ringFiles "/main.vn" ringSource file →
      Accepted ringFiles "/main.vn" ringSource file) ∧
    LeadsTo ringFiles "/main.vn" ringSource "/a.vn" ∧
    Recurs ringFiles "/main.vn" ringSource "/a.vn" ∧
    ∃ f, Program.ofSource ringFiles true (.nth 0) "/main.vn" ringSource = .error f ∧
      ((∃ chain, f.cause = .script (.includeCycle chain)) ∨ f.Duplicates) := by
  have draft : ∀ path inc : Text,
      (readDraft ringFiles path (scriptText ringFiles "/main.vn" ringSource path)
        (.nth 0)).toOption.map (fun d => d.includes.map (·.path)) = some [inc] →
      Accepted ringFiles "/main.vn" ringSource path ∧
        ∀ other, Links ringFiles "/main.vn" ringSource path other ↔ other = inc := by
    intro path inc h
    obtain ⟨d, hd, includes⟩ := exists_ok h
    refine ⟨⟨_, d, hd⟩, fun other => ?_⟩
    rw [links_iff hd, includes, List.mem_singleton]
  obtain ⟨accepted, links⟩ := draft "/main.vn" "/a.vn" (by decide +kernel)
  obtain ⟨accepted', links'⟩ := draft "/a.vn" "/b.vn" (by decide +kernel)
  obtain ⟨accepted'', links''⟩ := draft "/b.vn" "/a.vn" (by decide +kernel)
  have reached : ∀ file, LeadsTo ringFiles "/main.vn" ringSource file →
      file = "/main.vn" ∨ file = "/a.vn" ∨ file = "/b.vn" := by
    intro file leads
    induction leads with
    | refl => exact .inl rfl
    | tail _ link ih =>
      rcases ih with rfl | rfl | rfl
      · exact .inr (.inl ((links _).mp link))
      · exact .inr (.inr ((links' _).mp link))
      · exact .inr (.inl ((links'' _).mp link))
  have all : ∀ file, LeadsTo ringFiles "/main.vn" ringSource file →
      Accepted ringFiles "/main.vn" ringSource file := by
    intro file leads
    rcases reached file leads with rfl | rfl | rfl
    · exact accepted
    · exact accepted'
    · exact accepted''
  have leads : LeadsTo ringFiles "/main.vn" ringSource "/a.vn" := .single ((links _).mpr rfl)
  have recurs : Recurs ringFiles "/main.vn" ringSource "/a.vn" :=
    .tail (.single ((links' _).mpr rfl)) ((links'' _).mpr rfl)
  have script : Path.absolute "/main.vn" = "/main.vn" := by decide
  have ends := includes_come_to_an_end ringFiles true (.nth 0) "/main.vn" ringSource
  rw [script] at ends
  exact ⟨all, leads, recurs, ends.2.2.2.1 all ⟨_, leads, recurs⟩⟩

/-- A script that includes two files, which include a third one under two names each. -/
def diamondFiles : FileTree :=
  ⟨⟨[("/main.vn", .file "include \"a.vn\" as a; include \"b.vn\" as b; go a.c.z;"),
    ("/a.vn", .file "include \"c.vn\" as c; include \"c.vn\" as d;"),
    ("/b.vn", .file "include \"c.vn\" as c; include \"c.vn\" as d;"),
    ("/c.vn", .file "label z: \"C.\";")]⟩⟩

example : (Program.ofFile diamondFiles true (.nth 0) "/main.vn").toOption.map
    (fun r => r.1.labels.entries.map (·.2)) = some [1, 3, 5, 7] := by decide +kernel

end VisualNovel
