import VisualNovel.Proofs.Path
import VisualNovel.Proofs.Script.Linking
import VisualNovel.Proofs.Script.Progress
import VisualNovel.Proofs.Script.Reading

/-!
How a draft grows.

Statements change a draft in five ways only: they move its cursor, count a check block, add a
command, add a label that is new, or add an include. `Draft.Kept` lists them, and a property that
all of them keep is kept by every statement, every block and every file (`Statement.builds_one`,
`Statement.builds_inBlock`, `Statement.builds_inFile`). Two such properties are used here: a draft
only adds to what it began with, and it holds commands and scopes that are spelled like names,
labels that stand inside it, and includes of files.
-/

namespace VisualNovel

/-- What every change that a statement makes to a draft keeps, where words are spelled in a way that
the labels of check blocks have too. A command that comes without a label is none, and what is
included are files under their absolute paths. -/
structure Draft.Kept (W : Text → Prop) (files : FileTree) (I : Draft → Prop) : Prop where
  skip : ∀ n : Ordinal, W (Statement.checkMark ++ n.text)
  spells : ∀ d, I d → d.cursor.Spells W
  cursor : ∀ d c, I d → c.tokens = d.cursor.tokens → c.file = d.cursor.file →
    I { d with cursor := c }
  counter : ∀ d n, I d → I { d with counter := n }
  push : ∀ d command, I d → command.Spelled W W → command.NoLabel →
    I { d with commands := d.commands.push command }
  label : ∀ d name, I d → d.labels.contains name = false →
    I { d with
      labels := Builder.setLabel d.labels name d.commands.size
      commands := d.commands.push (.label name) }
  includes : ∀ d inc, I d → files.isFile inc.path → Path.absolute inc.path = inc.path → W inc.scope →
    I { d with includes := d.includes ++ [inc] }

/-- What a reader gives whatever it reads, it gives here. -/
theorem Reads.also {α : Type} {W : Text → Prop} {r : Reader α} {Q P : α → Prop} {n : Nat}
    (hr : Reads W r Q) (hm : ∀ k, Moves id k n r P) : Reads W r fun a => Q a ∧ P a := by
  intro c hc a c' h
  obtain ⟨htokens, hfile, ha⟩ := hr c hc a c' h
  exact ⟨htokens, hfile, ha, Moves.value hm h⟩

/-- A label is added only if it is new. -/
theorem Builder.label_eq_ok {name : Text} {d d' : Draft} {a : Unit}
    (h : Builder.label name d = .ok a d') :
    d.labels.contains name = false ∧
      d' = { d with
        labels := Builder.setLabel d.labels name d.commands.size
        commands := d.commands.push (.label name) } := by
  unfold Builder.label at h
  rw [run_bind_ok (run_get d)] at h
  cases hnew : d.labels.contains name with
  | true => simp [hnew, Builder.fail, Builder.read, Reader.fail, run_bind] at h
  | false =>
    simp only [hnew, Bool.false_eq_true, ↓reduceIte] at h
    cases h
    exact ⟨rfl, rfl⟩

/-- Where the builder succeeds on a draft with `I`, the draft has `I` again and the value has
`Q`. -/
def Builds {α : Type} (I : Draft → Prop) (m : Builder α) (Q : α → Prop) : Prop :=
  ∀ d, I d → ∀ a d', m d = .ok a d' → I d' ∧ Q a

namespace Builds

variable {α β : Type} {I : Draft → Prop} {m : Builder α} {Q : α → Prop} {R : β → Prop}

/-! ## 1. Building step by step -/

theorem pure {a : α} (h : Q a) : Builds I (Pure.pure a) Q := by
  intro d hd b d' hb
  cases hb
  exact ⟨hd, h⟩

theorem bind {f : α → Builder β} (hm : Builds I m Q) (hf : ∀ a, Q a → Builds I (f a) R) :
    Builds I (m >>= f) R := by
  intro d hd b d'' h
  obtain ⟨a, d', hma, hfa⟩ := run_bind_eq_ok.mp h
  obtain ⟨hd', ha⟩ := hm d hd a d' hma
  exact hf a ha d' hd' b d'' hfa

theorem ite {p : Prop} [Decidable p] {n : Builder α} (hm : Builds I m Q) (hn : Builds I n Q) :
    Builds I (if p then m else n) Q := by
  split
  · exact hm
  · exact hn

theorem get : Builds I get fun d => I d := by
  intro d hd a d' h
  cases h
  exact ⟨hd, hd⟩

theorem look (f : Cursor → α) : Builds I (Builder.look f) fun _ => True := by
  intro d hd a d' h
  cases h
  exact ⟨hd, trivial⟩

theorem fail (problem : ScriptProblem) : Builds I (Builder.fail problem) Q := by
  intro d _ a d' h
  cases h

theorem failAt (problem : ScriptProblem) (span : Span) :
    Builds I (Builder.failAt problem span) Q := by
  intro d _ a d' h
  cases h

theorem fail_bind (problem : ScriptProblem) {f : α → Builder β} :
    Builds I (Builder.fail problem >>= f) R := by
  intro d _ a d' h
  cases h

theorem failAt_bind (problem : ScriptProblem) (span : Span) {f : α → Builder β} :
    Builds I (Builder.failAt problem span >>= f) R := by
  intro d _ a d' h
  cases h

theorem resolveScript (files : FileTree) (path : Text) :
    Builds I (Builder.resolveScript files path)
      fun resolved => files.isFile resolved ∧ Path.absolute resolved = resolved := by
  refine (look _).bind fun _ _ => ?_
  simp only
  split
  · next found => exact .pure ⟨found, Path.absolute_resolve _ _⟩
  · exact fail _

variable {W : Text → Prop} {files : FileTree} (hI : Draft.Kept W files I)

include hI

theorem read {r : Reader α} (hr : Reads W r Q) : Builds I (Builder.read r) Q := by
  intro d hd a d' h
  unfold Builder.read at h
  split at h
  · rename_i c hc
    cases h
    obtain ⟨htokens, hfile, ha⟩ := hr d.cursor (hI.spells d hd) _ _ hc
    exact ⟨hI.cursor d _ hd htokens hfile, ha⟩
  · cases h

/-- What is looked at is one of the tokens. -/
theorem peek : Builds I (Builder.look Cursor.peek)
    fun t => ∀ token, t = some token → token.kind = .word → W token.value := by
  intro d hd a d' h
  cases h
  exact ⟨hd, fun token ht => hI.spells d hd token (Array.mem_of_getElem? ht)⟩

theorem skip : Builds I (Builder.read Reader.skip) fun _ => True := read hI Reads.skip

theorem push {command : Command} (h : command.Spelled W W ∧ command.NoLabel) :
    Builds I (Builder.push command) fun _ => True := by
  intro d hd a d' hd'
  cases hd'
  exact ⟨hI.push d command hd h.1 h.2, trivial⟩

theorem count : Builds I (modify fun d => { d with counter := d.counter.next }) fun _ => True := by
  intro d hd a d' hd'
  cases hd'
  exact ⟨hI.counter d _ hd, trivial⟩

theorem label (name : Text) : Builds I (Builder.label name) fun _ => True := by
  intro d hd a d' h
  obtain ⟨hnew, rfl⟩ := Builder.label_eq_ok h
  exact ⟨hI.label d name hd hnew, trivial⟩

end Builds

/-! ## 2. Statements, blocks and files -/

namespace Statement

open Builds

variable {W : Text → Prop} {files : FileTree} {I : Draft → Prop} (hI : Draft.Kept W files I)
variable {body : Builder Unit}

include hI

theorem builds_check (hbody : Builds I body fun _ => True) :
    Builds I (check body) fun _ => True := by
  refine (Builds.read hI reads_condition).bind fun found _ => ?_
  obtain ⟨name, op, value⟩ := found
  refine (Builds.look _).bind fun _ _ => .ite ?_ ?_
  · refine (count hI).bind fun _ _ => Builds.get.bind fun d _ => (push hI ?_).bind fun _ _ => ?_
    · exact ⟨hI.skip d.counter, nofun⟩
    · exact hbody.bind fun _ _ => label hI _
  · exact (Builds.read hI reads_checkTarget).bind fun _ htarget => push hI ⟨htarget, nofun⟩

theorem builds_loading (hbody : Builds I body fun _ => True) :
    Builds I (loading body) fun _ => True := by
  refine (Builds.read hI (Reads.expectString _)).bind fun _ _ => (push hI ?_).bind fun _ _ => ?_
  · exact ⟨trivial, nofun⟩
  · exact hbody.bind fun _ _ => push hI ⟨trivial, nofun⟩

theorem builds_call : Builds I (call files) fun _ => True :=
  (Builds.read hI (Reads.expectString _)).bind fun _ _ =>
    (Builds.read hI (Reads.expectWord _)).bind fun _ _ =>
      (Builds.read hI Reads.endStatement).bind fun _ _ =>
        (resolveScript files _).bind fun _ _ => push hI ⟨trivial, nofun⟩

theorem builds_addInclude {resolved scope : Text}
    (found : files.isFile resolved ∧ Path.absolute resolved = resolved) (hscope : W scope) :
    Builds I (modify fun d => { d with includes := d.includes ++ [⟨resolved, scope⟩] })
      fun _ => True := by
  intro d hd a d' h
  cases h
  exact ⟨hI.includes d _ hd found.1 found.2 hscope, trivial⟩

theorem builds_includeFile : Builds I (includeFile files) fun _ => True := by
  refine (Builds.read hI Reads.next).bind fun keyword _ => Builds.get.bind fun d _ => ?_
  refine .ite (failAt_bind _ _) ?_
  refine (Builds.read hI reads_includeHead).bind fun head hscope => Builds.get.bind fun d _ => ?_
  refine .ite (failAt_bind _ _) ?_
  exact (resolveScript files _).bind fun _ found => builds_addInclude hI found hscope

theorem builds_labelStatement : Builds I labelStatement fun _ => True :=
  (skip hI).bind fun _ _ => (Builds.read hI (Reads.expectWord _)).bind fun _ _ =>
    (Builds.read hI (Reads.expect _ _)).bind fun _ _ => label hI _

theorem builds_ofWord (hbody : Builds I body fun _ => True) {token : Token}
    (hword : W token.value) : Builds I (ofWord files body token) fun _ => True := by
  refine (Builds.look _).bind fun ahead _ => ?_
  refine .ite (builds_labelStatement hI) <| .ite (builds_includeFile hI) <|
    .ite ((skip hI).bind fun _ _ => builds_check hI hbody) <|
    .ite ((skip hI).bind fun _ _ => builds_loading hI hbody) <|
    .ite ((skip hI).bind fun _ _ => builds_call hI) ?_
  cases hplain : plainStatements.lookup token.value with
  | some reader =>
    exact (skip hI).bind fun _ _ =>
      (Builds.read hI ((reads_plainStatement hplain).also fun _ => moves_plainStatement hplain)).bind
        fun _ h => push hI h
  | none =>
    have hspeaker : ∀ name, some token.value = some name → W name := by
      intro name hname
      cases hname
      exact hword
    exact .ite ((skip hI).bind fun _ _ =>
        (Builds.read hI ((reads_say hspeaker).also fun _ => moves_say _)).bind fun _ h => push hI h)
      (failAt _ _)

theorem builds_one (hbody : Builds I body fun _ => True) :
    Builds I (one files body) fun _ => True := by
  refine (peek hI).bind fun t ht => ?_
  cases t with
  | none => exact .pure trivial
  | some token =>
    simp only
    split
    · exact skip hI
    · have hnone : ∀ name, (none : Option Text) = some name → W name := fun _ h => by cases h
      exact (Builds.read hI ((reads_say hnone).also fun _ => moves_say _)).bind fun _ h => push hI h
    · rename_i hkind
      exact builds_ofWord hI hbody (ht token rfl hkind)
    · exact fail _

theorem builds_inBraces (hbody : Builds I body fun _ => True) :
    Builds I (inBraces body) fun _ => True :=
  (Builds.read hI (Reads.expect _ _)).bind fun _ _ => hbody.bind fun _ _ =>
    Builds.read hI reads_closeBlock

theorem builds_inBlock (fuel : Nat) :
    Builds I (inBlock files fuel) fun _ => True := by
  induction fuel with
  | zero => exact fail _
  | succ fuel ih =>
    have hstep := (builds_one hI (builds_inBraces hI ih)).bind (R := fun _ => True) fun _ _ => ih
    refine (Builds.look _).bind fun _ _ => .ite (.pure trivial) ?_
    exact (Builds.look _).bind fun _ _ => .ite (fail_bind _) hstep

theorem builds_inFile (fuel : Nat) :
    Builds I (inFile files fuel) fun _ => True := by
  induction fuel with
  | zero => exact fail _
  | succ fuel ih =>
    have hstep := (builds_one hI (builds_inBraces hI (builds_inBlock hI fuel))).bind
      (R := fun _ => True) fun _ _ => ih
    refine (Builds.look _).bind fun _ _ => .ite (.pure trivial) ?_
    exact (Builds.look _).bind fun _ _ => .ite (fail_bind _) hstep

end Statement

/-! ## 3. Drafts only grow -/

/-- The draft adds to a unit, and its words are words. -/
structure Draft.Continues (u : ScriptUnit) (d : Draft) : Prop where
  lexed : d.cursor.Lexed
  whole : u.Extends d.unit

theorem Draft.Continues.self {d : Draft} (h : d.cursor.Lexed) : d.Continues d.unit :=
  ⟨h, .refl _⟩

theorem ScriptUnit.extends_push (u : ScriptUnit) (command : Command) :
    u.Extends { u with commands := u.commands.push command } :=
  ⟨⟨#[command], by simp⟩, fun _ _ h => h⟩

/-- A label that is new takes no other label away. -/
theorem get?_setLabel {labels : Table Nat} {name : Text} (hnew : labels.contains name = false)
    (index : Nat) {key : Text} {i : Nat} (h : labels.get? key = some i) :
    (Builder.setLabel labels name index).get? key = some i := by
  unfold Builder.setLabel
  split
  · exact h
  · rw [Table.get?_set, if_neg]
    · exact h
    · rintro rfl
      rw [Table.contains_eq_false hnew] at h
      cases h

/-- The label of a check block is a name. -/
theorem Statement.isName_checkMark (n : Ordinal) : (checkMark ++ n.text).IsName := by
  have first : checkMark = Text.unit '_' :: Text.ofString "_check_skip_" := by decide
  rw [first]
  exact Lexer.isName_cons (by decide) _

/-- The label of a check block is put below scopes, and every table keeps it. -/
theorem Statement.checkMark_plain (number : Text) :
    (checkMark ++ number).startsWith rootMark = false ∧ checkMark ++ number ≠ inventoryToggle ∧
      checkMark ++ number ≠ unrecordedName := by
  have hmark : checkMark = Text.unit '_' :: Text.unit '_' :: Text.unit 'c' :: checkMark.drop 3 := by
    decide
  have hroot : rootMark = [Text.unit ':', Text.unit ':'] := by decide
  have htoggle : inventoryToggle = Text.unit 'i' :: inventoryToggle.drop 1 := by decide
  have hname : unrecordedName = Text.unit '_' :: Text.unit '_' :: Text.unit 'p' ::
      unrecordedName.drop 3 := by decide
  rw [hmark]
  refine ⟨?_, ?_, ?_⟩
  · rw [hroot]
    simp [Text.startsWith, List.isPrefixOf, show Text.unit ':' ≠ Text.unit '_' by decide]
  · rw [htoggle]
    simp [show Text.unit '_' ≠ Text.unit 'i' by decide]
  · rw [hname]
    simp [show Text.unit 'c' ≠ Text.unit 'p' by decide]

theorem Draft.kept_continues (files : FileTree) (u : ScriptUnit) :
    Draft.Kept Text.IsWord files (Draft.Continues u) where
  skip n := (Statement.isName_checkMark n).word
  spells _ h := h.lexed
  cursor d c h htokens _ := ⟨by unfold Cursor.Lexed; rw [htokens]; exact h.lexed, h.whole⟩
  counter _ _ h := ⟨h.lexed, h.whole⟩
  push d command h _ _ := ⟨h.lexed, h.whole.trans (ScriptUnit.extends_push d.unit command)⟩
  label d name h hnew :=
    ⟨h.lexed, h.whole.trans ⟨⟨#[.label name], by simp [Draft.unit]⟩,
      fun _ _ hi => get?_setLabel hnew _ hi⟩⟩
  includes _ _ h _ _ _ := ⟨h.lexed, h.whole⟩

/-! ## 4. What a draft holds -/

/-- Every label stands at a command. -/
def ScriptUnit.Labelled (u : ScriptUnit) : Prop := ∀ e ∈ u.labels.entries, e.2 < u.commands.size

/-- Names are spelled like names, labels stand inside, and what is included is a file under its
absolute path. -/
structure Draft.Sound (files : FileTree) (d : Draft) : Prop where
  spells : d.cursor.Spells Text.IsName
  commands : ∀ c ∈ d.commands, c.Spelled Text.IsName Text.IsName
  labels : d.unit.Labelled
  includes : ∀ inc ∈ d.includes, files.isFile inc.path ∧ inc.scope.IsName
  absolute : ∀ inc ∈ d.includes, Path.absolute inc.path = inc.path

theorem spelled_push {W : Text → Prop} {commands : Array Command} {command : Command}
    (old : ∀ c ∈ commands, c.Spelled W W) (new : command.Spelled W W) :
    ∀ c ∈ commands.push command, c.Spelled W W := by
  intro c mem
  rcases Array.mem_push.mp mem with before | rfl
  · exact old c before
  · exact new

theorem ScriptUnit.Labelled.push {u : ScriptUnit} (h : u.Labelled) (command : Command) :
    ScriptUnit.Labelled { u with commands := u.commands.push command } := by
  intro e mem
  rw [Array.size_push]
  exact Nat.lt_succ_of_lt (h e mem)

/-- A new label stands at the command that comes with it. -/
theorem ScriptUnit.Labelled.label {u : ScriptUnit} (h : u.Labelled) (name : Text) :
    ScriptUnit.Labelled
      ⟨u.commands.push (.label name), Builder.setLabel u.labels name u.commands.size⟩ := by
  intro e mem
  rw [Array.size_push]
  change e ∈ (Builder.setLabel u.labels name u.commands.size).entries at mem
  unfold Builder.setLabel at mem
  split at mem
  · exact Nat.lt_succ_of_lt (h e mem)
  · rcases Table.mem_setEntry mem with rfl | old
    · exact Nat.lt_succ_self _
    · exact Nat.lt_succ_of_lt (h e old)

theorem Draft.kept_sound (files : FileTree) :
    Draft.Kept Text.IsName files (Draft.Sound files) where
  skip := Statement.isName_checkMark
  spells _ h := h.spells
  cursor d c h htokens _ := { h with spells := by unfold Cursor.Spells; rw [htokens]; exact h.spells }
  counter _ _ h := { h with }
  push d command h spelled _ :=
    { h with commands := spelled_push h.commands spelled, labels := h.labels.push command }
  label d name h _ :=
    { h with commands := spelled_push h.commands trivial, labels := h.labels.label name }
  includes d inc h found whole scope := by
    refine { h with includes := fun other mem => ?_, absolute := fun other mem => ?_ }
    · rcases List.mem_append.mp mem with old | new
      · exact h.includes other old
      · rw [List.mem_singleton.mp new]
        exact ⟨found, scope⟩
    · rcases List.mem_append.mp mem with old | new
      · exact h.absolute other old
      · rw [List.mem_singleton.mp new]
        exact whole

end VisualNovel
