import VisualNovel.Proofs.Script.WellFormed

/-!
The numbers of check blocks only matter to labels.

The check blocks of one load are numbered through all of its files, so how a file is read depends on
the files before it. It does so in its labels only: read with another number to begin with, the file
has the same includes and as many commands, or one of its labels is no longer new
(`readDraft_renumbered`). `Renumbers m n` says this of two builders that run on drafts which differ
in their numbers and labels alone.
-/

namespace VisualNovel

/-- A label is not new. -/
def Fault.Duplicates (f : Fault) : Prop := ∃ name, f.cause = .script (.duplicateLabel name)

/-- Two drafts of one file at the same place, with the same includes and as many commands. -/
structure Draft.Level (d e : Draft) : Prop where
  cursor : e.cursor = d.cursor
  includes : e.includes = d.includes
  size : e.commands.size = d.commands.size

/-- Where the first builder succeeds, the second one does so with the same value, or it finds a
label that is not new. -/
def Renumbers {α : Type} (m n : Builder α) : Prop :=
  ∀ d e, d.Level e → ∀ a d', m d = .ok a d' →
    (∃ e', n e = .ok a e' ∧ d'.Level e') ∨ ∃ f e', n e = .error f e' ∧ f.Duplicates

namespace Renumbers

variable {α β : Type} {m n : Builder α} {p q : α → Builder β}

/-! ## 1. Building step by step -/

theorem pure (a : α) : Renumbers (Pure.pure a) (Pure.pure a) := by
  intro d e level b d' h
  cases h
  exact .inl ⟨e, rfl, level⟩

theorem bind (first : Renumbers m n) (second : ∀ a, Renumbers (p a) (q a)) :
    Renumbers (m >>= p) (n >>= q) := by
  intro d e level b d'' h
  obtain ⟨a, d', hm, hp⟩ := run_bind_eq_ok.mp h
  rcases first d e level a d' hm with ⟨e', hn, level'⟩ | ⟨f, e', hn, twice⟩
  · rw [run_bind_ok hn]
    exact second a d' e' level' b d'' hp
  · exact .inr ⟨f, e', run_bind_error hn, twice⟩

theorem ite {c : Prop} [Decidable c] {m' n' : Builder α} (yes : Renumbers m n) (no : Renumbers m' n') :
    Renumbers (if c then m else m') (if c then n else n') := by
  split
  · exact yes
  · exact no

theorem state {p q : Draft → Builder β} (h : ∀ d e, d.Level e → Renumbers (p d) (q e)) :
    Renumbers (get >>= p) (get >>= q) :=
  fun d e level => h d e level d e level

theorem look (f : Cursor → α) : Renumbers (Builder.look f) (Builder.look f) := by
  intro d e level b d' h
  cases h
  exact .inl ⟨e, by rw [Builder.look, level.cursor], level⟩

theorem read (r : Reader α) : Renumbers (Builder.read r) (Builder.read r) := by
  intro d e level a d' h
  unfold Builder.read at h ⊢
  rw [level.cursor]
  split at h
  · next c hc =>
    cases h
    exact .inl ⟨_, rfl, ⟨rfl, level.includes, level.size⟩⟩
  · cases h

theorem fail (problem : ScriptProblem) : Renumbers (Builder.fail problem : Builder α) n := by
  intro d e _ a d' h
  cases h

theorem failAt_bind (problem : ScriptProblem) (span : Span) {n : Builder β} :
    Renumbers (Builder.failAt problem span >>= p) n := by
  intro d e _ a d' h
  cases h

theorem change {g g' : Draft → Draft} (h : ∀ d e, d.Level e → (g d).Level (g' e)) :
    Renumbers (modify g) (modify g') := by
  intro d e level a d' hd
  cases hd
  exact .inl ⟨_, rfl, h d e level⟩

theorem push (command command' : Command) :
    Renumbers (Builder.push command) (Builder.push command') :=
  change fun d e level => ⟨level.cursor, level.includes, by simp [level.size]⟩

/-- A label that is new on one side may not be so on the other. -/
theorem label (name name' : Text) : Renumbers (Builder.label name) (Builder.label name') := by
  intro d e level a d' h
  obtain ⟨-, rfl⟩ := Builder.label_eq_ok h
  unfold Builder.label
  rw [run_bind_ok (run_get e)]
  cases known : e.labels.contains name' with
  | true => exact .inr ⟨_, _, rfl, name', rfl⟩
  | false => exact .inl ⟨_, rfl, ⟨level.cursor, level.includes, by simp [level.size]⟩⟩

theorem resolveScript (files : FileTree) (path : Text) :
    Renumbers (Builder.resolveScript files path) (Builder.resolveScript files path) :=
  (look _).bind fun _ => ite (pure _) (fail _)

end Renumbers

/-! ## 2. Statements, blocks and files -/

namespace Statement

open Renumbers

variable {files : FileTree} {body : Builder Unit}

theorem renumbers_call : Renumbers (call files) (call files) :=
  (read _).bind fun _ => (read _).bind fun _ => (read _).bind fun _ =>
    (resolveScript files _).bind fun _ => push _ _

theorem renumbers_includeFile : Renumbers (includeFile files) (includeFile files) := by
  refine (read _).bind fun keyword => state fun d e level => ?_
  have empty : e.commands.isEmpty = d.commands.isEmpty := by
    simp only [Array.isEmpty, level.size]
  rw [empty]
  refine ite (failAt_bind _ _) ?_
  refine (read _).bind fun head => state fun d e level => ?_
  rw [level.includes]
  refine ite (failAt_bind _ _) ?_
  refine (resolveScript files _).bind fun _ => change fun d e level => ?_
  exact ⟨level.cursor, by rw [level.includes], level.size⟩

theorem renumbers_labelStatement : Renumbers labelStatement labelStatement :=
  (read _).bind fun _ => (read _).bind fun _ => (read _).bind fun _ => label _ _

variable (hbody : Renumbers body body)
include hbody

/-- The jump over a block and its end have another number. -/
theorem renumbers_check : Renumbers (check body) (check body) := by
  refine (read _).bind fun found => (look _).bind fun _ => ite ?_ ?_
  · refine (change ?_).bind fun _ => state fun d e _ => ?_
    · exact fun _ _ level => ⟨level.cursor, level.includes, level.size⟩
    · exact (push _ _).bind fun _ => hbody.bind fun _ => label _ _
  · exact (read _).bind fun _ => push _ _

theorem renumbers_loading : Renumbers (loading body) (loading body) :=
  (read _).bind fun _ => (push _ _).bind fun _ => hbody.bind fun _ => push _ _

theorem renumbers_ofWord (token : Token) :
    Renumbers (ofWord files body token) (ofWord files body token) := by
  refine (look _).bind fun ahead => ?_
  refine ite renumbers_labelStatement <| ite renumbers_includeFile <|
    ite ((read _).bind fun _ => renumbers_check hbody) <|
    ite ((read _).bind fun _ => renumbers_loading hbody) <|
    ite ((read _).bind fun _ => renumbers_call) ?_
  cases plainStatements.lookup token.value with
  | some reader => exact (read _).bind fun _ => (read _).bind fun _ => push _ _
  | none =>
    exact ite ((read _).bind fun _ => (read _).bind fun _ => push _ _) (read _)

theorem renumbers_one : Renumbers (one files body) (one files body) := by
  refine (look _).bind fun next => ?_
  cases next with
  | none => exact pure _
  | some token =>
    obtain ⟨kind, value, span⟩ := token
    cases kind with
    | semi => exact read _
    | string => exact (read _).bind fun _ => push _ _
    | word => exact renumbers_ofWord hbody _
    | _ => exact fail _

theorem renumbers_inBraces : Renumbers (inBraces body) (inBraces body) :=
  (read _).bind fun _ => hbody.bind fun _ => read _

omit hbody

theorem renumbers_inBlock (fuel : Nat) : Renumbers (inBlock files fuel) (inBlock files fuel) := by
  induction fuel with
  | zero => exact fail _
  | succ fuel ih =>
    have step := (@renumbers_one files _ (renumbers_inBraces ih)).bind fun _ => ih
    exact (look _).bind fun _ => ite (pure _) <| (look _).bind fun _ =>
      ite ((read _).bind fun _ => step) step

theorem renumbers_inFile (fuel : Nat) : Renumbers (inFile files fuel) (inFile files fuel) := by
  induction fuel with
  | zero => exact fail _
  | succ fuel ih =>
    have inner := renumbers_inBraces (@renumbers_inBlock files fuel)
    have step := (@renumbers_one files _ inner).bind fun _ => ih
    exact (look _).bind fun _ => ite (pure _) <| (look _).bind fun _ =>
      ite ((read _).bind fun _ => step) step

end Statement

/-- Read with another number for its check blocks, a file has the same includes, or one of its
labels is not new. -/
theorem readDraft_renumbered {files : FileTree} {file source : Text} {counter : Ordinal}
    {draft : Draft} (h : readDraft files file source counter = .ok draft) (other : Ordinal) :
    (∃ draft', readDraft files file source other = .ok draft' ∧
      draft'.includes = draft.includes) ∨
    ∃ f, readDraft files file source other = .error f ∧ f.Duplicates := by
  obtain ⟨tokens, htokens, a, hrun⟩ := readDraft_eq_ok h
  have level : Draft.Level { cursor := { tokens := tokens.toArray, file }, counter }
      { cursor := { tokens := tokens.toArray, file }, counter := other } := ⟨rfl, rfl, rfl⟩
  unfold readDraft
  rw [htokens]
  rcases Statement.renumbers_inFile _ _ _ level _ _ hrun with ⟨e', hn, level'⟩ | ⟨f, e', hn, twice⟩
  · refine .inl ⟨e', ?_, level'.includes⟩
    simp only [bind, Except.bind, hn]
    rfl
  · refine .inr ⟨f, ?_, twice⟩
    simp only [bind, Except.bind, hn]
    rfl

end VisualNovel
