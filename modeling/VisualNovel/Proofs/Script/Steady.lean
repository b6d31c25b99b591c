import VisualNovel.Proofs.Path
import VisualNovel.Proofs.Script.WellFormed

/-!
A script reads the same as long as its text stays the same.

The files of a project change while a story is played: saves are written among them. Reading a
script asks the files for two things only, whether there is a file at a path and what its text is,
and both answers can only turn a reading into a failure. So two readings of one text that succeed
give the same, over whatever files (`Source.unit_agree`). A text that begins with a brace, as every
save does, is no script (`readDraft_brace`). Together they say that there is at most one program of
a script for the whole time a project is played (`Reading.unique`).
-/

namespace VisualNovel

/-! ## 1. Builders over two trees -/

/-- A way to compare builders that respects how they are put together. -/
structure Builder.Congruence (Matches : {α : Type} → Builder α → Builder α → Prop) : Prop where
  refl : ∀ {α : Type} (m : Builder α), Matches m m
  bind : ∀ {α β : Type} {m n : Builder α} {p q : α → Builder β}, Matches m n →
    (∀ a, Matches (p a) (q a)) → Matches (m >>= p) (n >>= q)

namespace Builder.Congruence

variable {Matches : {α : Type} → Builder α → Builder α → Prop} (c : Congruence Matches)
variable {α β : Type}
include c

theorem same {m : Builder α} {p q : α → Builder β} (second : ∀ a, Matches (p a) (q a)) :
    Matches (m >>= p) (m >>= q) := c.bind (c.refl m) second

omit c in
theorem ite {p : Prop} [Decidable p] {m n m' n' : Builder α} (yes : Matches m n)
    (no : Matches m' n') : Matches (if p then m else m') (if p then n else n') := by
  split
  · exact yes
  · exact no

end Builder.Congruence

/-! Files are asked for in one place only: where the path of a script is resolved. If the builders of
that place match over two trees, so do the builders of whole files. -/

namespace Statement

open Builder.Congruence (ite)

variable {Matches : {α : Type} → Builder α → Builder α → Prop}
variable (c : Builder.Congruence Matches) {files others : FileTree}
  (resolve : ∀ path, Matches (Builder.resolveScript files path) (Builder.resolveScript others path))

include c resolve

theorem matches_call : Matches (call files) (call others) :=
  c.same fun path => c.same fun _ => c.same fun _ => c.bind (resolve path) fun _ => c.refl _

theorem matches_includeFile : Matches (includeFile files) (includeFile others) :=
  c.same fun _ => c.same fun _ => ite (c.refl _) <| c.same fun head => c.same fun _ =>
    ite (c.refl _) <| c.bind (resolve head.1) fun _ => c.refl _

omit resolve

variable {body body' : Builder Unit} (inside : Matches body body')
include inside

theorem matches_check : Matches (check body) (check body') :=
  c.same fun _ => c.same fun _ => ite
    (c.same fun _ => c.same fun _ => c.same fun _ => c.bind inside fun _ => c.refl _) (c.refl _)

theorem matches_loading : Matches (loading body) (loading body') :=
  c.same fun _ => c.same fun _ => c.bind inside fun _ => c.refl _

theorem matches_inBraces : Matches (inBraces body) (inBraces body') :=
  c.same fun _ => c.bind inside fun _ => c.refl _

include resolve

theorem matches_ofWord (token : Token) :
    Matches (ofWord files body token) (ofWord others body' token) := by
  refine c.same fun ahead => ite (c.refl _) (ite (matches_includeFile c resolve) ?_)
  refine ite (c.same fun _ => matches_check c inside) ?_
  refine ite (c.same fun _ => matches_loading c inside) ?_
  exact ite (c.same fun _ => matches_call c resolve) (c.refl _)

theorem matches_one : Matches (one files body) (one others body') := by
  refine c.same fun next => ?_
  cases next with
  | none => exact c.refl _
  | some token =>
    obtain ⟨kind, value, span⟩ := token
    cases kind with
    | word => exact matches_ofWord c resolve inside _
    | _ => exact c.refl _

omit inside

theorem matches_inBlock (fuel : Nat) : Matches (inBlock files fuel) (inBlock others fuel) := by
  induction fuel with
  | zero => exact c.refl _
  | succ fuel ih =>
    have step := c.bind (matches_one c resolve (matches_inBraces c ih)) fun _ => ih
    exact c.same fun _ => ite (c.refl _) <| c.same fun _ => ite (c.same fun _ => step) step

theorem matches_inFile (fuel : Nat) : Matches (inFile files fuel) (inFile others fuel) := by
  induction fuel with
  | zero => exact c.refl _
  | succ fuel ih =>
    have inner := matches_inBraces c (matches_inBlock c resolve fuel)
    have step := c.bind (matches_one c resolve inner) fun _ => ih
    exact c.same fun _ => ite (c.refl _) <| c.same fun _ => ite (c.same fun _ => step) step

end Statement

/-- Where both builders succeed on a draft they do the same. -/
def Agree {α : Type} (m n : Builder α) : Prop :=
  ∀ d a b e f, m d = .ok a e → n d = .ok b f → a = b ∧ e = f

theorem Agree.congruence : Builder.Congruence Agree where
  refl m := by
    intro d a b e f hm hn
    rw [hm] at hn
    cases hn
    exact ⟨rfl, rfl⟩
  bind first second := by
    intro d a b e f hm hn
    obtain ⟨x, c, hx, hm⟩ := run_bind_eq_ok.mp hm
    obtain ⟨y, c', hy, hn⟩ := run_bind_eq_ok.mp hn
    obtain ⟨rfl, rfl⟩ := first _ x y c c' hx hy
    exact second x c a b e f hm hn

/-- Two trees can only differ in whether there is a file. -/
theorem agree_resolveScript (files others : FileTree) (path : Text) :
    Agree (Builder.resolveScript files path) (Builder.resolveScript others path) := by
  refine Agree.congruence.same fun file => ?_
  intro d a b e f hm hn
  simp only at hm hn
  split at hm
  · split at hn
    · cases hm
      cases hn
      exact ⟨rfl, rfl⟩
    · cases hn
  · cases hm

/-! ## 2. Drafts and units -/

theorem readDraft_agree {files others : FileTree} {file source : Text} {counter : Ordinal}
    {draft draft' : Draft} (h : readDraft files file source counter = .ok draft)
    (h' : readDraft others file source counter = .ok draft') : draft = draft' := by
  obtain ⟨tokens, htokens, a, hrun⟩ := readDraft_eq_ok h
  obtain ⟨tokens', htokens', a', hrun'⟩ := readDraft_eq_ok h'
  obtain rfl : tokens = tokens' := Except.ok.inj (htokens.symm.trans htokens')
  exact (Statement.matches_inFile Agree.congruence (agree_resolveScript files others) _
    _ _ _ _ _ hrun hrun').2

/-- Tokens that were scanned stay in front. -/
theorem Lexer.scan_prefix {file : Option Text} {fuel : Nat} {t : Text} {place : Place}
    {done tokens : List Token} (h : scan file fuel t place done = .ok tokens) :
    done.reverse <+: tokens := by
  fun_induction scan file fuel t place done with
  | case1 =>
    cases h
    exact List.prefix_rfl
  | case2 => cases h
  | case3 _ _ _ _ _ _ _ _ ih => exact ih h
  | case4 _ done _ _ _ _ _ _ _ _ _ ih =>
    have longer := ih h
    rw [List.reverse_cons] at longer
    exact (List.prefix_append _ _).trans longer
  | case5 => cases h

/-- A text that begins with a brace is no script: no statement does. -/
theorem readDraft_brace (files : FileTree) (file rest : Text) (counter : Ordinal) (draft : Draft) :
    readDraft files file (Text.unit '\x7b' :: rest) counter ≠ .ok draft := by
  intro h
  obtain ⟨tokens, htokens, a, hrun⟩ := readDraft_eq_ok h
  have first : Lexer.step (Text.unit '\x7b' :: rest) = .token .lbrace [Text.unit '\x7b'] 1 := rfl
  rw [tokenize, List.length_cons, Lexer.scan, first] at htokens
  obtain ⟨more, rfl⟩ := Lexer.scan_prefix htokens
  cases hrun

/-- Every file holds the text it had at first, or one that is no script. -/
def FileTree.Holds (files : FileTree) (original : Text → Option Text) : Prop :=
  ∀ path text, files.nodeAt path = some (.file text) →
    original path = some text ∨ text.head? = some (Text.unit '\x7b')

theorem FileTree.read_of_isFile {files : FileTree} {path : Text} (h : files.isFile path) :
    ∃ text, files.read path = .ok text ∧ files.nodeAt (Path.absolute path) = some (.file text) := by
  unfold isFile at h
  split at h
  · next text found =>
    refine ⟨text, by rw [read, found], ?_⟩
    unfold node? at found
    split at found
    · cases found
    · exact found
  · cases h

namespace Source

variable {files others : FileTree} {original : Text → Option Text}

theorem unit_brace (depth : Nat) (chain : List Text) (file rest : Text) (counter : Ordinal)
    (r : ScriptUnit × Ordinal) :
    unit files ⟨depth, chain, file, Text.unit '\x7b' :: rest, counter⟩ ≠ .ok r := by
  intro h
  cases depth with
  | zero => cases h
  | succ depth =>
    rw [unit_succ] at h
    obtain ⟨draft, hdraft, -⟩ := except_bind_eq_ok.mp h
    exact readDraft_brace files file rest counter draft hdraft

/-- A file whose reading succeeds holds its first text. -/
theorem original_of_unit (holds : files.Holds original) {depth : Nat} {chain : List Text}
    {path : Text} {counter : Ordinal} {r : ScriptUnit × Ordinal} (found : files.isFile path)
    (h : (part files depth chain path counter).unit files = .ok r) :
    original (Path.absolute path) = some ((files.read path).toOption.getD []) := by
  obtain ⟨text, hread, hnode⟩ := FileTree.read_of_isFile found
  rcases holds _ _ hnode with same | brace
  · rw [hread]
    exact same
  · -- A text with a brace in front cannot have been read.
    obtain ⟨rest, rfl⟩ := List.head?_eq_some_iff.mp brace
    rw [part, hread] at h
    exact (unit_brace _ _ _ _ _ _ h).elim

/-- Folds whose steps agree where they succeed. -/
theorem foldlM_agree {ε α β : Type} {f g : β → α → Except ε β} {xs : List α}
    (step : ∀ x ∈ xs, ∀ s t t', f s x = .ok t → g s x = .ok t' → t = t') {s r r' : β}
    (h : xs.foldlM f s = .ok r) (h' : xs.foldlM g s = .ok r') : r = r' := by
  induction xs generalizing s with
  | nil =>
    cases h
    cases h'
    rfl
  | cons x xs ih =>
    rw [List.foldlM_cons] at h h'
    obtain ⟨t, ht, h⟩ := except_bind_eq_ok.mp h
    obtain ⟨t', ht', h'⟩ := except_bind_eq_ok.mp h'
    obtain rfl := step x List.mem_cons_self s t t' ht ht'
    exact ih (fun y mem => step y (List.mem_cons_of_mem x mem)) h h'

/-- Two readings of one text that succeed give the same. -/
theorem unit_agree (holds : files.Holds original) (holds' : others.Holds original)
    {depth depth' : Nat} {chain : List Text} {file text : Text} {counter : Ordinal}
    {r r' : ScriptUnit × Ordinal} (h : unit files ⟨depth, chain, file, text, counter⟩ = .ok r)
    (h' : unit others ⟨depth', chain, file, text, counter⟩ = .ok r') : r = r' := by
  induction depth generalizing depth' chain file text counter r r' with
  | zero => cases h
  | succ depth ih =>
    cases depth' with
    | zero => cases h'
    | succ depth' =>
      rw [unit_succ] at h h'
      obtain ⟨draft, hdraft, hparts⟩ := except_bind_eq_ok.mp h
      obtain ⟨draft', hdraft', hparts'⟩ := except_bind_eq_ok.mp h'
      obtain rfl := readDraft_agree hdraft hdraft'
      refine foldlM_agree ?_ hparts hparts'
      rintro inc mem ⟨whole, counter⟩ ⟨t, reached⟩ ⟨t', reached'⟩ ht ht'
      obtain ⟨inner, hinner, happend⟩ := addInclude_eq_ok ht
      obtain ⟨inner', hinner', happend'⟩ := addInclude_eq_ok ht'
      have text := original_of_unit holds ((readDraft_sound hdraft).includes inc mem).1 hinner
      have text' := original_of_unit holds' ((readDraft_sound hdraft').includes inc mem).1 hinner'
      have same : part others depth' chain inc.path counter =
          { part files depth chain inc.path counter with depth := depth' } := by
        rw [part, ← Option.some.inj (text.symm.trans text')]
        rfl
      rw [same] at hinner'
      cases ih hinner hinner'
      rw [happend] at happend'
      cases happend'
      rfl

end Source

/-! ## 3. Programs -/

/-- A script that can be read does not begin with a brace. -/
theorem Program.head_ne_brace {files : FileTree} {strict : Bool} {counter reached : Ordinal}
    {path source : Text} {program : Program}
    (h : ofSource files strict counter path source = .ok (program, reached)) :
    source.head? ≠ some (Text.unit '\x7b') := by
  intro brace
  obtain ⟨rest, rfl⟩ := List.head?_eq_some_iff.mp brace
  obtain ⟨unit, hunit, -⟩ := ofSource_eq_ok h
  exact Source.unit_brace _ _ _ _ _ _ hunit

/-- The program is one that the script at an absolute path gives, read from its first text among
files that hold only such texts and saves. -/
def Reading (original : Text → Option Text) (script : Text) (program : Program) : Prop :=
  ∃ files strict text reached, FileTree.Holds files original ∧ original script = some text ∧
    Program.ofSource files strict (.nth 0) script text = .ok (program, reached)

namespace Reading

variable {original : Text → Option Text} {script : Text} {program other : Program}

/-- There is one program of a script. -/
theorem unique (h : Reading original script program) (h' : Reading original script other) :
    program = other := by
  obtain ⟨files, strict, text, reached, holds, first, read⟩ := h
  obtain ⟨files', strict', text', reached', holds', first', read'⟩ := h'
  obtain rfl : text = text' := Option.some.inj (first.symm.trans first')
  obtain ⟨unit, hunit, rfl⟩ := Program.ofSource_eq_ok read
  obtain ⟨unit', hunit', rfl⟩ := Program.ofSource_eq_ok read'
  cases Source.unit_agree holds holds' hunit hunit'
  rfl

theorem wellFormed (h : Reading original script program) : program.WellFormed := by
  obtain ⟨files, strict, text, reached, holds, first, read⟩ := h
  exact Program.wellFormed_ofSource read

theorem script_eq (h : Reading original script program) : program.script = Path.absolute script := by
  obtain ⟨files, strict, text, reached, holds, first, read⟩ := h
  obtain ⟨unit, hunit, rfl⟩ := Program.ofSource_eq_ok read
  rfl

/-- A script that is read from its file is read from its first text. -/
theorem ofFile {files : FileTree} (holds : files.Holds original) {strict : Bool} {reached : Ordinal}
    {path : Text} (h : Program.ofFile files strict (.nth 0) path = .ok (program, reached)) :
    Reading original (Path.absolute path) program := by
  obtain ⟨found, read⟩ := Program.ofFile_eq_ok h
  obtain ⟨text, hread, hnode⟩ := FileTree.read_of_isFile found
  rw [hread] at read
  rw [Path.absolute_absolute] at hnode
  have first := (holds _ _ hnode).resolve_right (Program.head_ne_brace read)
  exact ⟨files, strict, text, reached, holds, first, read⟩

end Reading

end VisualNovel
