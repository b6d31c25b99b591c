import VisualNovel.Proofs.Script.Draft
import VisualNovel.Script.Program

/-!
What holds of every program.

However a program is put together from files, its commands name things by words, none of its targets
has a root mark any more, and its labels stand at commands of it (`Program.WellFormed`). Linking
keeps all of this: a name below a scope has the root mark of the scope, and labels move together with
the commands they stand at. A program that was read with strict labels has a label for each of its
targets, but for the one that is handled without a label.
-/

namespace VisualNovel

/-! ## 1. Names below a scope -/

/-- A target that is looked up as it is. -/
def Text.Unmarked (t : Text) : Prop := t.startsWith rootMark = false

theorem Text.Unmarked.stripRootMark_eq {t : Text} (h : t.Unmarked) : stripRootMark t = t := by
  unfold Text.Unmarked at h
  simp [stripRootMark, h]

theorem Text.IsName.unmarked {t : Text} (h : t.IsName) : (stripRootMark t).Unmarked := h.mark

/-- A name below a scope has no more marks than the scope. -/
theorem Text.IsName.mark_scope {scope : Text} (h : scope.IsName) (name : Text) :
    (stripRootMark (scope ++ Text.ofString "." ++ name)).Unmarked := by
  have length : rootMark.length = 2 := by decide
  cases marked : scope.startsWith rootMark with
  | false =>
    have plain := startsWith_rootMark_scope marked name
    rw [Text.Unmarked.stripRootMark_eq plain]
    exact plain
  | true =>
    obtain ⟨rest, rfl⟩ := List.isPrefixOf_iff_prefix.mp marked
    have inner : Text.Unmarked rest := by
      have mark := h.mark
      rwa [stripRootMark, if_pos marked, ← length, List.drop_left] at mark
    have whole : Text.startsWith (rootMark ++ rest ++ Text.ofString "." ++ name) rootMark := by
      simp [Text.startsWith]
    rw [stripRootMark, if_pos whole, List.append_assoc, List.append_assoc, ← length,
      List.drop_left, ← List.append_assoc]
    exact startsWith_rootMark_scope inner name

/-- A name below a scope is a name. -/
theorem Text.IsName.inScope {scope name : Text} (hscope : scope.IsName) (hname : name.IsName) :
    (ScriptUnit.inScope scope name).IsName := by
  unfold ScriptUnit.inScope
  split
  · exact hname
  · refine ⟨?_, hscope.mark_scope name⟩
    cases scope with
    | nil => exact absurd hscope.word (by decide)
    | cons u rest => exact hscope.word

/-! ## 2. Units -/

/-- The commands of a unit name things by words, and its labels stand inside it. -/
structure ScriptUnit.WellFormed (u : ScriptUnit) : Prop where
  commands : ∀ c ∈ u.commands, c.Spelled Text.IsName Text.IsName
  labels : u.Labelled

theorem readDraft_eq_ok {files : FileTree} {file source : Text} {counter : Ordinal} {draft : Draft}
    (h : readDraft files file source counter = .ok draft) :
    ∃ tokens, tokenize source (some file) = .ok tokens ∧
      ∃ a, Statement.inFile files (tokens.length + 1)
        { cursor := { tokens := tokens.toArray, file }, counter } = .ok a draft := by
  obtain ⟨tokens, htokens, rest⟩ := except_bind_eq_ok.mp h
  refine ⟨tokens, htokens, ?_⟩
  simp only at rest
  split at rest
  · next a result hrun =>
    cases rest
    exact ⟨a, hrun⟩
  · cases rest

theorem readDraft_sound {files : FileTree} {file source : Text} {counter : Ordinal} {draft : Draft}
    (h : readDraft files file source counter = .ok draft) : draft.Sound files := by
  obtain ⟨tokens, htokens, a, hrun⟩ := readDraft_eq_ok h
  refine (Statement.builds_inFile (Draft.kept_sound files) _ _ ?_ a draft hrun).1
  exact ⟨by simpa [Cursor.Spells] using isName_of_tokenize htokens, by simp,
    by simp [ScriptUnit.Labelled, Draft.unit], by simp, by simp⟩

theorem readDraft_wellFormed {files : FileTree} {file source : Text} {counter : Ordinal}
    {draft : Draft} (h : readDraft files file source counter = .ok draft) :
    draft.unit.WellFormed :=
  ⟨(readDraft_sound h).commands, (readDraft_sound h).labels⟩

namespace ScriptUnit

/-- Labels that are added stand where their commands are put. -/
theorem labels_of_addLabels {file scope : Text} {offset size : Nat} {added : List (Text × Nat)}
    {labels result : Table Nat} (h : addLabels file scope offset added labels = .ok result)
    (old : ∀ e ∈ labels.entries, e.2 < size) (new : ∀ e ∈ added, offset + e.2 < size) :
    ∀ e ∈ result.entries, e.2 < size := by
  induction added generalizing labels with
  | nil =>
    cases h
    exact old
  | cons entry rest ih =>
    obtain ⟨first, index⟩ := entry
    simp only [addLabels] at h
    split at h
    · cases h
    · refine ih h (fun e mem => ?_) fun e mem => new e (List.mem_cons_of_mem _ mem)
      rcases Table.mem_setEntry mem with rfl | before
      · exact new _ List.mem_cons_self
      · exact old e before

/-- What is included moves as a whole, with its names put below the scope. -/
theorem WellFormed.append {file scope : Text} {whole part result : ScriptUnit}
    (hwhole : whole.WellFormed) (hpart : part.WellFormed) (hscope : scope.IsName)
    (h : whole.append file scope part = .ok result) : result.WellFormed := by
  obtain ⟨labels, hlabels, hresult⟩ := except_bind_eq_ok.mp h
  cases hresult
  constructor
  · intro c mem
    rcases Array.mem_append.mp mem with before | behind
    · exact hwhole.commands c before
    · obtain ⟨c, inside, rfl⟩ := Array.mem_map.mp behind
      exact (hpart.commands c inside).mapTargets _ fun t ht => hscope.inScope ht
  · refine labels_of_addLabels hlabels (fun e mem => ?_) fun e mem => ?_
    · rw [Array.size_append]
      exact Nat.lt_add_right _ (hwhole.labels e mem)
    · rw [Array.size_append, Array.size_map]
      exact Nat.add_lt_add_left (hpart.labels e mem) _

end ScriptUnit

namespace Source

/-- What every step of a fold keeps holds at its end. -/
theorem foldlM_keeps {ε α β : Type} {f : β → α → Except ε β} {P : β → Prop} {xs : List α}
    (step : ∀ x ∈ xs, ∀ s t, P s → f s x = .ok t → P t) {s r : β} (first : P s)
    (h : xs.foldlM f s = .ok r) : P r := by
  induction xs generalizing s with
  | nil =>
    cases h
    exact first
  | cons x xs ih =>
    rw [List.foldlM_cons] at h
    obtain ⟨t, ht, h⟩ := except_bind_eq_ok.mp h
    exact ih (fun y mem => step y (List.mem_cons_of_mem x mem))
      (step x List.mem_cons_self s t first ht) h

/-- A file and those it includes. -/
theorem wellFormed_of_unit {files : FileTree} {depth : Nat} {chain : List Text} {file text : Text}
    {counter reached : Ordinal} {whole : ScriptUnit}
    (h : unit files ⟨depth, chain, file, text, counter⟩ = .ok (whole, reached)) :
    whole.WellFormed := by
  induction depth generalizing chain file text counter reached whole with
  | zero => cases h
  | succ depth ih =>
    rw [unit_succ] at h
    obtain ⟨draft, hdraft, hparts⟩ := except_bind_eq_ok.mp h
    refine foldlM_keeps (P := fun so => so.1.WellFormed) ?_ (readDraft_wellFormed hdraft) hparts
    rintro inc mem ⟨whole, counter⟩ ⟨larger, reached⟩ old hstep
    obtain ⟨inner, hinner, happend⟩ := addInclude_eq_ok hstep
    exact old.append (ih hinner) ((readDraft_sound hdraft).includes inc mem).2 happend

end Source

/-! ## 3. Programs -/

namespace Program

/-- Things are named by words, targets are looked up as they are, and labels stand at commands. -/
structure WellFormed (program : Program) : Prop where
  commands : ∀ c ∈ program.commands, c.Spelled Text.IsName Text.Unmarked
  labels : ∀ name i, program.labels.get? name = some i → i < program.commands.size

theorem wellFormed_ofSource {files : FileTree} {strict : Bool} {counter reached : Ordinal}
    {path source : Text} {program : Program}
    (h : ofSource files strict counter path source = .ok (program, reached)) :
    program.WellFormed := by
  obtain ⟨unit, hunit, rfl⟩ := ofSource_eq_ok h
  have whole := Source.wellFormed_of_unit hunit
  constructor
  · intro c mem
    obtain ⟨c, inside, rfl⟩ := Array.mem_map.mp mem
    exact (whole.commands c inside).mapTargets none fun t ht => ht.unmarked
  · intro name i found
    rw [Array.size_map]
    exact whole.labels _ (Table.mem_of_lookup found)

/-- A target is a label of the program, or needs none. -/
def Leads (program : Program) (t : Text) : Prop :=
  t.Unmarked ∧ (t = inventoryToggle ∨ program.labels.contains t = true)

/-- Every target is a label of the program, or needs none. -/
def Resolved (program : Program) : Prop := ∀ c ∈ program.commands, ∀ t ∈ c.targets, program.Leads t

theorem resolved_of_strict {files : FileTree} {counter reached : Ordinal} {path source : Text}
    {program : Program} (h : ofSource files true counter path source = .ok (program, reached)) :
    program.Resolved := by
  have formed := wellFormed_ofSource h
  obtain ⟨⟨unit, last⟩, hunit, hrest⟩ := except_bind_eq_ok.mp h
  simp only [↓reduceIte] at hrest
  obtain ⟨_, hcheck, hlast⟩ := except_bind_eq_ok.mp hrest
  cases hlast
  intro c mem t named
  refine ⟨(formed.commands c mem).targets t named, ?_⟩
  -- A target without a label would have been the first one found, or behind it.
  unfold checkTargets at hcheck
  split at hcheck
  · cases hcheck
  · next none =>
    have each := List.findSome?_eq_none_iff.mp none c (Array.mem_toList_iff.mpr mem)
    rw [Option.map_eq_none_iff, List.find?_eq_none] at each
    have known := each t named
    by_cases reserved : t = inventoryToggle
    · exact .inl reserved
    · exact .inr (by simpa [reserved] using known)

end Program
end VisualNovel
