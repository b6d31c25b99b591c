import VisualNovel.Proofs.Script.Includes
import VisualNovel.Proofs.Script.Steady

/-!
A script that can be read stays the same when files are added.

Reading a script asks for files that have to be there. So where it succeeds, it has seen nothing but
files with their texts, and in a tree that still has them it goes the same way (`Source.unit_lasts`,
`Program.ofFile_lasts`). A tree may hold fewer files than another one and still all that a reading
needs; the bound on includes within includes leaves room in both.
-/

namespace VisualNovel

/-- Every file of the tree is in the later one, with its text. -/
def FileTree.Lasts (files later : FileTree) : Prop :=
  ∀ path text, files.nodeAt path = some (.file text) → later.nodeAt path = some (.file text)

namespace FileTree.Lasts

variable {files later : FileTree} {path : Text}

/-- A file that is there is there later, and is read as before. -/
theorem read_eq (lasts : files.Lasts later) (there : files.isFile path = true) :
    later.isFile path = true ∧ later.read path = files.read path := by
  have named : path ≠ [] := by
    rintro rfl
    cases there
  obtain ⟨text, read, node⟩ := read_of_isFile there
  have found : later.node? path = some (.file text) := by
    rw [node?, if_neg (by simp [named])]
    exact lasts _ _ node
  rw [read, isFile, FileTree.read, found]
  exact ⟨rfl, rfl⟩

end FileTree.Lasts

/-- What the first builder makes of a draft, the second one makes of it as well. -/
def Persists {α : Type} (m n : Builder α) : Prop := ∀ d a e, m d = .ok a e → n d = .ok a e

theorem Persists.congruence : Builder.Congruence Persists where
  refl m := by
    intro d a e h
    exact h
  bind first second := by
    intro d a e h
    obtain ⟨x, c, left, right⟩ := run_bind_eq_ok.mp h
    rw [run_bind_ok (first d x c left)]
    exact second x c a e right

theorem persists_resolveScript {files later : FileTree} (lasts : files.Lasts later) (path : Text) :
    Persists (Builder.resolveScript files path) (Builder.resolveScript later path) := by
  refine Persists.congruence.same fun file => ?_
  intro d a e h
  simp only at h
  split at h
  · next there =>
    simp only [(lasts.read_eq there).1, if_true]
    exact h
  · cases h

theorem readDraft_lasts {files later : FileTree} (lasts : files.Lasts later) {file source : Text}
    {counter : Ordinal} {draft : Draft} (h : readDraft files file source counter = .ok draft) :
    readDraft later file source counter = .ok draft := by
  obtain ⟨tokens, lexed, a, built⟩ := readDraft_eq_ok h
  have again := Statement.matches_inFile Persists.congruence (persists_resolveScript lasts) _ _ _ _ built
  refine except_bind_eq_ok.mpr ⟨tokens, lexed, ?_⟩
  simp only [again]
  rfl

namespace Source

variable {files later : FileTree} {script source : Text}

/-- A fold whose steps come out as before where they succeed. -/
theorem foldlM_lasts {ε α β : Type} {f g : β → α → Except ε β} {xs : List α}
    (step : ∀ x ∈ xs, ∀ s t, f s x = .ok t → g s x = .ok t) {s r : β}
    (h : xs.foldlM f s = .ok r) : xs.foldlM g s = .ok r := by
  induction xs generalizing s with
  | nil => exact h
  | cons x xs ih =>
    rw [List.foldlM_cons] at h ⊢
    obtain ⟨t, first, rest⟩ := except_bind_eq_ok.mp h
    rw [step x List.mem_cons_self s t first]
    exact ih (fun y mem => step y (List.mem_cons_of_mem x mem)) rest

/-- A unit that can be read is read from the later tree as well, if the bound leaves room there. -/
theorem unit_lasts (lasts : files.Lasts later) {depth bound : Nat} {chain : List Text}
    {file text : Text} {counter : Ordinal} {r : ScriptUnit × Ordinal}
    (opened : Opened later script source ⟨bound, chain, file, text, counter⟩)
    (room : later.fileCount + 2 ≤ bound + chain.length)
    (h : unit files ⟨depth, chain, file, text, counter⟩ = .ok r) :
    unit later ⟨bound, chain, file, text, counter⟩ = .ok r := by
  induction depth generalizing bound chain file text counter r with
  | zero => cases h
  | succ depth ih =>
    cases bound with
    | zero =>
      have short := opened.length_le
      simp only at short
      omega
    | succ bound =>
      rw [unit_succ] at h ⊢
      obtain ⟨draft, drafted, parts⟩ := except_bind_eq_ok.mp h
      have again := readDraft_lasts lasts drafted
      rw [again]
      refine foldlM_lasts (fun inc mem so t added => ?_) parts
      by_cases known : inc.path ∈ chain
      · rw [addInclude_known known] at added
        cases added
      · obtain ⟨-, same⟩ := lasts.read_eq ((readDraft_sound drafted).includes inc mem).1
        have inner : Opened later script source (part later bound chain inc.path so.2) :=
          opened.part again mem known bound so.2
        have longer : (chain ++ [inc.path]).length = chain.length + 1 := by simp
        rw [addInclude_new known] at added ⊢
        obtain ⟨unit, read, rest⟩ := except_bind_eq_ok.mp added
        rw [part, ← same] at read
        rw [part] at inner ⊢
        rw [ih inner (by omega) read]
        exact rest

end Source

namespace Program

variable {files later : FileTree} {strict : Bool} {counter : Ordinal} {path source : Text}
  {r : Program × Ordinal}

theorem ofSource_lasts (lasts : files.Lasts later)
    (h : ofSource files strict counter path source = .ok r) :
    ofSource later strict counter path source = .ok r := by
  obtain ⟨u, read, rest⟩ := except_bind_eq_ok.mp h
  have opened := Source.opened_outermost later (Path.absolute path) source (later.fileCount + 1) counter
  have again := Source.unit_lasts lasts opened (by simp) read
  rw [ofSource]
  exact except_bind_eq_ok.mpr ⟨u, again, rest⟩

/-- A script that can be read is read from the later tree as before. -/
theorem ofFile_lasts (lasts : files.Lasts later) (h : ofFile files strict counter path = .ok r) :
    ofFile later strict counter path = .ok r := by
  unfold ofFile at h ⊢
  simp only at h ⊢
  split at h
  · next there =>
    obtain ⟨still, same⟩ := lasts.read_eq there
    rw [if_pos still, same]
    exact ofSource_lasts lasts h
  · cases h

end Program
end VisualNovel
