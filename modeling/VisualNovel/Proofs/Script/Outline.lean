import VisualNovel.Proofs.Script.WellFormed

/-!
The outline of a file.

While a file is read, the commands of its blocks are put in line at once, and check blocks get
their numbers. The outline of a file is what is written there: `Outline.inFile` reads the same
tokens into a tree, without numbers, places or labels. Putting the outline in line gives the
commands of the draft (`readDraft_outline`), so what holds of outlines that are put in line holds of
files.

`Outline.blocks` tells the blocks of an outline, at any depth, with their places in line. Each
stands there from its beginning to its end with its body between (`Outline.mem_blocks`), of two
blocks one lies behind the other or inside it, and the numbers of check blocks go up
(`Outline.blocks_ordered`).
-/

namespace VisualNovel

/-! ## 1. Outlines -/

/-- What a block begins with: a condition, or a text that is shown while something is loaded. -/
inductive BlockHead where
  | check (name : Text) (op : CompareOp) (value : Operand)
  | loading (text : Text)
  deriving DecidableEq, Repr

/-- The statements of a file or of a block, as they are written. -/
inductive Outline where
  | done
  | command (c : Command) (rest : Outline)
  | block (head : BlockHead) (body rest : Outline)
  deriving DecidableEq, Repr

/-- The label behind the check block with a number. -/
def skipName (number : Nat) : Text := Statement.checkMark ++ Text.ofNat number

namespace BlockHead

/-- How many numbers a block takes for itself. -/
def numbers : BlockHead → Nat
  | .check _ _ _ => 1
  | .loading _ => 0

/-- The command in front of the body of a block. -/
def opening (number : Nat) : BlockHead → Command
  | .check name op value => .jumpIf name op.negate value (skipName number)
  | .loading text => .beginLoading (some text)

/-- The command behind the body of a block. -/
def closing (number : Nat) : BlockHead → Command
  | .check _ _ _ => .label (skipName number)
  | .loading _ => .endLoading

end BlockHead

namespace Outline

/-- One outline behind another. -/
def append : Outline → Outline → Outline
  | .done, p => p
  | .command c rest, p => .command c (rest.append p)
  | .block head body rest, p => .block head body (rest.append p)

instance : Append Outline := ⟨append⟩

/-- How many numbers the blocks take. -/
def numbers : Outline → Nat
  | .done => 0
  | .command _ rest => rest.numbers
  | .block head body rest => head.numbers + body.numbers + rest.numbers

/-- The commands in line, where a number has been given last. -/
def commands : Outline → Nat → List Command
  | .done, _ => []
  | .command c rest, n => c :: rest.commands n
  | .block head body rest, n =>
    let own := n + head.numbers
    head.opening own :: body.commands own ++
      head.closing own :: rest.commands (own + body.numbers)

theorem numbers_append (o p : Outline) : (o ++ p).numbers = o.numbers + p.numbers := by
  show (o.append p).numbers = _
  induction o with
  | done => simp [append, numbers]
  | command c rest ih => simp [append, numbers, ih]
  | block head body rest _ ih => simp [append, numbers, ih, Nat.add_assoc]

theorem commands_append (o p : Outline) (n : Nat) :
    (o ++ p).commands n = o.commands n ++ p.commands (n + o.numbers) := by
  show (o.append p).commands n = _
  induction o generalizing n with
  | done => simp [append, commands, numbers]
  | command c rest ih => simp [append, commands, numbers, ih]
  | block head body rest _ ih => simp [append, commands, numbers, ih, Nat.add_assoc]

/-! ## 2. Reading outlines -/

section

open Statement (condition checkTarget includeHead closeBlock say plainStatements)
open Reader (expect expectWord expectString endStatement)

/-- A check, with or without a block. -/
def check (body : Reader Outline) : Reader Outline := do
  let (name, op, value) ← condition
  if (← Reader.look Cursor.kind) = some .lbrace then
    return .block (.check name op value) (← body) .done
  else
    return .command (.jumpIf name op value (← checkTarget)) .done

/-- A loading block. -/
def loading (body : Reader Outline) : Reader Outline := do
  let text ← expectString "loading text"
  return .block (.loading text) (← body) .done

/-- A call of another script. -/
def call : Reader Outline := do
  let path ← expectString "script path"
  let label ← expectWord "entry label"
  endStatement
  let resolved ← Reader.look fun c => Path.resolve (Path.directory c.file) path
  return .command (.call path resolved label) .done

/-- An include, which gives no command. -/
def includeFile : Reader Outline := do
  let _ ← Reader.next
  let _ ← includeHead
  return .done

/-- A label. -/
def labelStatement : Reader Outline := do
  Reader.skip
  let name ← expectWord "label name"
  let _ ← expect .colon (inQuotes ":")
  return .command (.label name) .done

/-- A statement that begins with a word. -/
def ofWord (body : Reader Outline) (token : Token) : Reader Outline := do
  let word := token.value
  let ahead ← Reader.look fun c => (c.kindAhead 1, c.kindAhead 2)
  if word = Text.ofString "label" && ahead = (some .word, some .colon) then labelStatement
  else if word = Text.ofString "include" then includeFile
  else if word = Text.ofString "check" then do Reader.skip; check body
  else if word = Text.ofString "loading" then do Reader.skip; loading body
  else if word = Text.ofString "call" then do Reader.skip; call
  else
    match plainStatements.lookup word with
    | some reader => do
      Reader.skip
      return .command (← reader) .done
    | none => do
      Reader.skip
      return .command (← say (some word)) .done

/-- One statement. -/
def one (body : Reader Outline) : Reader Outline := do
  match ← Reader.look Cursor.peek with
  | none => return .done
  | some token =>
    match token.kind with
    | .semi => do
      Reader.skip
      return .done
    | .string => return .command (← say none) .done
    | _ => ofWord body token

/-- A block around its statements. -/
def inBraces (statements : Reader Outline) : Reader Outline := do
  let _ ← expect .lbrace (inQuotes "\x7b")
  let inside ← statements
  closeBlock
  return inside

/-- The statements of a block up to its closing brace. -/
def inBlock : Nat → Reader Outline
  | 0 => Reader.fail .stalled
  | fuel + 1 => do
    if (← Reader.look Cursor.kind) = some .rbrace then return .done
    let first ← one (inBraces (inBlock fuel))
    let rest ← inBlock fuel
    return first ++ rest

/-- The statements of a file. -/
def inFile : Nat → Reader Outline
  | 0 => Reader.fail .stalled
  | fuel + 1 => do
    if ← Reader.look Cursor.atEnd then return .done
    let first ← one (inBraces (inBlock fuel))
    let rest ← inFile fuel
    return first ++ rest

/-- The outline of the text of a file. -/
def ofText (file source : Text) : Except Fault Outline := do
  let tokens ← tokenize source (some file)
  match inFile (tokens.length + 1) { tokens := tokens.toArray, file } with
  | .ok o _ => return o
  | .error fault _ => throw fault

end

end Outline

/-! ## 3. Drafts from outlines -/

theorem Builder.resolveScript_eq_ok {files : FileTree} {path resolved : Text} {d d' : Draft}
    (h : resolveScript files path d = .ok resolved d') :
    resolved = Path.resolve (Path.directory d.cursor.file) path ∧ d' = d := by
  obtain ⟨file, _, looked, found⟩ := run_bind_eq_ok.mp h
  cases looked
  split at found
  · cases found
    exact ⟨rfl, rfl⟩
  · cases found

/-- Where the builder succeeds, the reader takes the same tokens, and the draft gets the commands of
its outline in line. -/
def Outlines (m : Builder Unit) (r : Reader Outline) : Prop :=
  ∀ d d' n, d.counter = .nth n → m d = .ok () d' → ∃ o, r d.cursor = .ok o d'.cursor ∧
    d'.counter = .nth (n + o.numbers) ∧
    d'.commands.toList = d.commands.toList ++ o.commands n

namespace Outlines

variable {α : Type} {m m' : Builder Unit} {r r' : Reader Outline} {p : α → Builder Unit}
  {q : α → Reader Outline}

theorem done : Outlines (pure ()) (pure .done) := by
  intro d d' n number h
  cases h
  exact ⟨.done, rfl, number, (List.append_nil _).symm⟩

theorem push (c : Command) : Outlines (Builder.push c) (pure (.command c .done)) := by
  intro d d' n number h
  cases h
  exact ⟨.command c .done, rfl, number, Array.toList_push⟩

theorem fail (problem : ScriptProblem) : Outlines (Builder.fail problem) r := by
  intro d d' n _ h
  cases h

theorem failAt (problem : ScriptProblem) (span : Span) :
    Outlines (Builder.failAt problem span) r := by
  intro d d' n _ h
  cases h

theorem fail_bind (problem : ScriptProblem) : Outlines (Builder.fail problem >>= p) r := by
  intro d d' n _ h
  cases h

theorem failAt_bind (problem : ScriptProblem) (span : Span) :
    Outlines (Builder.failAt problem span >>= p) r := by
  intro d d' n _ h
  cases h

theorem ite {c : Prop} [Decidable c] (yes : Outlines m r) (no : Outlines m' r') :
    Outlines (if c then m else m') (if c then r else r') := by
  split
  · exact yes
  · exact no

/-- What the reader need not look at. -/
theorem iteLeft {c : Prop} [Decidable c] (yes : Outlines m r) (no : Outlines m' r) :
    Outlines (if c then m else m') r := by
  split
  · exact yes
  · exact no

theorem state {p : Draft → Builder Unit} (h : ∀ d, Outlines (p d) r) : Outlines (get >>= p) r :=
  fun d => h d d

theorem read (s : Reader α) (h : ∀ a, Outlines (p a) (q a)) :
    Outlines (Builder.read s >>= p) (s >>= q) := by
  intro d d' n number done
  obtain ⟨a, e, first, second⟩ := run_bind_eq_ok.mp done
  unfold Builder.read at first
  split at first
  · next c taken =>
    cases first
    rw [run_bind_ok taken]
    exact h a { d with cursor := c } d' n number second
  · cases first

theorem look (f : Cursor → α) (h : ∀ a, Outlines (p a) (q a)) :
    Outlines (Builder.look f >>= p) (Reader.look f >>= q) :=
  fun d => h (f d.cursor) d

theorem lookLeft (f : Cursor → α) (h : ∀ a, Outlines (p a) r) : Outlines (Builder.look f >>= p) r :=
  fun d => h (f d.cursor) d

/-- Two statements, one behind the other. -/
theorem append (first : Outlines m r) (second : Outlines m' r') :
    Outlines (m >>= fun _ => m') (do let a ← r; let b ← r'; return a ++ b) := by
  intro d d' n number h
  obtain ⟨_, e, hm, hm'⟩ := run_bind_eq_ok.mp h
  obtain ⟨o, reads, number', commands⟩ := first d e n number hm
  obtain ⟨o', reads', number'', commands'⟩ := second e d' _ number' hm'
  refine ⟨o ++ o', ?_, ?_, ?_⟩
  · rw [run_bind_ok reads, run_bind_ok reads']
    rfl
  · rw [number'', Outline.numbers_append, Nat.add_assoc]
  · rw [commands', commands, Outline.commands_append, List.append_assoc]

/-- A path is resolved in the directory of the file. -/
theorem resolve (files : FileTree) (path : Text) {p : Text → Builder Unit}
    {q : Text → Reader Outline} (h : ∀ a, Outlines (p a) (q a)) :
    Outlines (Builder.resolveScript files path >>= p)
      (Reader.look (fun c => Path.resolve (Path.directory c.file) path) >>= q) := by
  intro d d' n number done
  obtain ⟨a, e, found, rest⟩ := run_bind_eq_ok.mp done
  obtain ⟨rfl, rfl⟩ := Builder.resolveScript_eq_ok found
  exact h _ _ d' n number rest

theorem resolveLeft (files : FileTree) (path : Text) {p : Text → Builder Unit}
    (h : ∀ a, Outlines (p a) r) : Outlines (Builder.resolveScript files path >>= p) r := by
  intro d d' n number done
  obtain ⟨a, e, found, rest⟩ := run_bind_eq_ok.mp done
  obtain ⟨-, rfl⟩ := Builder.resolveScript_eq_ok found
  exact h a _ d' n number rest

/-- What adds nothing to the commands. -/
theorem silent {f : Draft → Draft} (same : ∀ d, (f d).cursor = d.cursor ∧
    (f d).counter = d.counter ∧ (f d).commands = d.commands) :
    Outlines (modify f) (pure .done) := by
  intro d d' n number h
  cases h
  obtain ⟨cursor, counter, commands⟩ := same d
  refine ⟨.done, by rw [cursor]; rfl, counter.trans number, ?_⟩
  rw [commands]
  simp [Outline.commands]

/-- What is read behind an outline and gives nothing. -/
theorem behind (first : Outlines m r) (s : Reader Unit) :
    Outlines (m >>= fun _ => Builder.read s) (do let a ← r; s; return a) := by
  intro d d' n number h
  obtain ⟨_, e, hm, hs⟩ := run_bind_eq_ok.mp h
  obtain ⟨o, reads, number', commands⟩ := first d e n number hm
  unfold Builder.read at hs
  split at hs
  · next c taken =>
    cases hs
    refine ⟨o, ?_, number', commands⟩
    rw [run_bind_ok reads, run_bind_ok taken]
    rfl
  · cases hs

end Outlines

namespace Statement

open Outlines

variable {files : FileTree} {body : Builder Unit} {inside : Reader Outline}

theorem outlines_call : Outlines (call files) Outline.call := by
  refine read _ fun path => read _ fun label => read _ fun _ => ?_
  exact resolve _ _ fun resolved => push _

theorem outlines_includeFile : Outlines (includeFile files) Outline.includeFile := by
  refine read _ fun keyword => state fun d => iteLeft (failAt_bind _ _) ?_
  refine read _ fun head => state fun d => iteLeft (failAt_bind _ _) ?_
  exact resolveLeft _ _ fun resolved => silent fun d => ⟨rfl, rfl, rfl⟩

theorem outlines_labelStatement : Outlines labelStatement Outline.labelStatement := by
  refine read _ fun _ => read _ fun name => read _ fun _ => ?_
  intro d d' n number h
  obtain ⟨-, rfl⟩ := Builder.label_eq_ok h
  exact ⟨_, rfl, number, Array.toList_push⟩

variable (hbody : Outlines body inside)
include hbody

theorem outlines_check : Outlines (check body) (Outline.check inside) := by
  refine read _ fun found => look _ fun _ => ite ?_ ?_
  · intro d d' n number h
    obtain ⟨name, op, value⟩ := found
    obtain ⟨_, _, counted, h⟩ := run_bind_eq_ok.mp h
    cases counted
    obtain ⟨_, _, seen, h⟩ := run_bind_eq_ok.mp h
    cases seen
    obtain ⟨_, _, opened, h⟩ := run_bind_eq_ok.mp h
    cases opened
    obtain ⟨_, e, done, closed⟩ := run_bind_eq_ok.mp h
    obtain ⟨-, rfl⟩ := Builder.label_eq_ok closed
    have number' : d.counter.next = .nth (n + 1) := by rw [number, Ordinal.next]
    obtain ⟨o, reads, number'', commands⟩ := hbody _ e (n + 1) number' done
    refine ⟨.block (.check name op value) o .done, ?_, ?_, ?_⟩
    · rw [run_bind_ok reads]
      rfl
    · rw [number'']
      simp [Outline.numbers, BlockHead.numbers, Nat.add_assoc]
    · simp only [number'] at commands ⊢
      simp [commands, Outline.commands, BlockHead.opening, BlockHead.closing, BlockHead.numbers,
        skipName, Ordinal.text]
  · exact read _ fun target => push _

theorem outlines_loading : Outlines (loading body) (Outline.loading inside) := by
  refine read _ fun text => ?_
  intro d d' n number h
  obtain ⟨_, _, opened, h⟩ := run_bind_eq_ok.mp h
  cases opened
  obtain ⟨_, e, done, closed⟩ := run_bind_eq_ok.mp h
  obtain ⟨o, reads, number', commands⟩ :=
    hbody { d with commands := d.commands.push (.beginLoading (some text)) } e n number done
  cases closed
  refine ⟨.block (.loading text) o .done, ?_, ?_, ?_⟩
  · rw [run_bind_ok reads]
    rfl
  · rw [number']
    simp [Outline.numbers, BlockHead.numbers]
  · simp [commands, Outline.commands, BlockHead.opening, BlockHead.closing, BlockHead.numbers]

theorem outlines_ofWord (token : Token) :
    Outlines (ofWord files body token) (Outline.ofWord inside token) := by
  refine look _ fun ahead => ite outlines_labelStatement <| ite outlines_includeFile <|
    ite (read _ fun _ => outlines_check hbody) <| ite (read _ fun _ => outlines_loading hbody) <|
    ite (read _ fun _ => outlines_call) ?_
  cases plainStatements.lookup token.value with
  | some reader => exact read _ fun _ => read _ fun c => push c
  | none => exact iteLeft (read _ fun _ => read _ fun c => push c) (failAt _ _)

theorem outlines_one : Outlines (one files body) (Outline.one inside) := by
  refine look _ fun next => ?_
  cases next with
  | none => exact done
  | some token =>
    obtain ⟨kind, value, span⟩ := token
    cases kind with
    | semi =>
      show Outlines (Builder.read Reader.skip) (Reader.skip >>= fun _ => pure .done)
      exact behind done Reader.skip
    | string => exact read _ fun c => push c
    | word => exact outlines_ofWord hbody _
    | _ => exact fail _

theorem outlines_inBraces : Outlines (inBraces body) (Outline.inBraces inside) :=
  read _ fun _ => behind hbody _

omit hbody

theorem outlines_inBlock (fuel : Nat) : Outlines (inBlock files fuel) (Outline.inBlock fuel) := by
  induction fuel with
  | zero => exact fail _
  | succ fuel ih =>
    have step := append (@outlines_one files _ _ (outlines_inBraces ih)) ih
    refine look _ fun _ => ite done <| lookLeft _ fun _ => iteLeft (fail_bind _) step

theorem outlines_inFile (fuel : Nat) : Outlines (inFile files fuel) (Outline.inFile fuel) := by
  induction fuel with
  | zero => exact fail _
  | succ fuel ih =>
    have inner := outlines_inBraces (@outlines_inBlock files fuel)
    have step := append (@outlines_one files _ _ inner) ih
    refine look _ fun _ => ite done <| lookLeft _ fun _ => iteLeft (fail_bind _) step

end Statement

/-- The draft of a file has the commands of its outline in line, numbered from where the load
stands. -/
theorem readDraft_outline {files : FileTree} {file source : Text} {n : Nat} {draft : Draft}
    (h : readDraft files file source (.nth n) = .ok draft) :
    ∃ o, Outline.ofText file source = .ok o ∧ draft.counter = .nth (n + o.numbers) ∧
      draft.commands.toList = o.commands n := by
  obtain ⟨tokens, read, _, run⟩ := readDraft_eq_ok h
  obtain ⟨o, reads, number, commands⟩ := Statement.outlines_inFile _ _ _ n rfl run
  refine ⟨o, ?_, number, commands⟩
  rw [Outline.ofText, read]
  simp only [bind, Except.bind, reads]
  rfl

/-! ## 4. Blocks in line -/

/-- A block in line: its place, its statements, and the number that was given last when they begin,
which for a check block is its own. -/
structure Block where
  head : BlockHead
  number : Nat
  start : Nat
  inside : Outline
  deriving DecidableEq, Repr

namespace Block

/-- The commands of its statements. -/
def body (b : Block) : List Command := b.inside.commands b.number

/-- The place of the command behind its body. -/
def stop (b : Block) : Nat := b.start + b.body.length + 1

/-- All its commands. -/
def commands (b : Block) : List Command :=
  b.head.opening b.number :: b.body ++ [b.head.closing b.number]

/-- Of two blocks the second one lies behind the first one or inside it, and has a greater number if
it is a check block. -/
def Before (b c : Block) : Prop :=
  (b.stop < c.start ∨ b.start < c.start ∧ c.stop < b.stop) ∧ b.number + c.head.numbers ≤ c.number

end Block

/-- The name of a command that is a label. -/
def Command.ownLabel : Command → List Text
  | .label name => [name]
  | _ => []

namespace Outline

/-- The blocks of an outline at any depth, in the order in which they begin. The outline stands in
line from a place on, and a number has been given last. -/
def blocks : Outline → Nat → Nat → List Block
  | .done, _, _ => []
  | .command _ rest, i, n => rest.blocks (i + 1) n
  | .block head body rest, i, n =>
    let own := n + head.numbers
    ⟨head, own, i, body⟩ :: (body.blocks (i + 1) own ++
      rest.blocks (i + (body.commands own).length + 2) (own + body.numbers))

/-- The labels that the statements name. -/
def labels : Outline → List Text
  | .done => []
  | .command c rest => c.ownLabel ++ rest.labels
  | .block _ body rest => body.labels ++ rest.labels

/-- A block of an outline that begins with one is that one, inside it, or behind it. -/
theorem mem_blocks_block {head : BlockHead} {body rest : Outline} {i n : Nat} {b : Block} :
    b ∈ (block head body rest).blocks i n ↔ b = ⟨head, n + head.numbers, i, body⟩ ∨
      b ∈ body.blocks (i + 1) (n + head.numbers) ∨
      b ∈ rest.blocks (i + (body.commands (n + head.numbers)).length + 2)
        (n + head.numbers + body.numbers) := by
  rw [blocks, List.mem_cons, List.mem_append]

/-- A block stands in line with all its commands. -/
theorem mem_blocks {o : Outline} {i n : Nat} {b : Block} (mem : b ∈ o.blocks i n) :
    ∃ front back, o.commands n = front ++ b.commands ++ back ∧ b.start = i + front.length := by
  induction o generalizing i n with
  | done => cases mem
  | command c rest ih =>
    obtain ⟨front, back, split, start⟩ := ih mem
    refine ⟨c :: front, back, by simp [commands, split], ?_⟩
    rw [start, List.length_cons]
    omega
  | block head body rest inner behind =>
    rw [commands]
    rcases mem_blocks_block.mp mem with rfl | mem | mem
    · exact ⟨[], rest.commands (n + head.numbers + body.numbers),
        by simp [Block.commands, Block.body], rfl⟩
    · obtain ⟨front, back, split, start⟩ := inner mem
      refine ⟨head.opening (n + head.numbers) :: front, back ++ head.closing (n + head.numbers) ::
        rest.commands (n + head.numbers + body.numbers), by simp [split], ?_⟩
      rw [start, List.length_cons]
      omega
    · obtain ⟨front, back, split, start⟩ := behind mem
      refine ⟨head.opening (n + head.numbers) :: body.commands (n + head.numbers) ++
        head.closing (n + head.numbers) :: front, back, by simp [split], ?_⟩
      simp only [start, List.length_append, List.length_cons]
      omega

/-- A block lies between the ends of its outline. -/
theorem places_of_mem {o : Outline} {i n : Nat} {b : Block} (mem : b ∈ o.blocks i n) :
    i ≤ b.start ∧ b.stop < i + (o.commands n).length := by
  obtain ⟨front, back, split, start⟩ := mem_blocks mem
  have length := congrArg List.length split
  simp only [Block.commands, List.length_append, List.length_cons, List.length_nil] at length
  rw [Block.stop]
  omega

/-- Its number is one of those that the outline takes. -/
theorem number_of_mem {o : Outline} {i n : Nat} {b : Block} (mem : b ∈ o.blocks i n) :
    n + b.head.numbers ≤ b.number ∧ b.number ≤ n + o.numbers := by
  induction o generalizing i n with
  | done => cases mem
  | command c rest ih => exact ih mem
  | block head body rest inner behind =>
    rw [numbers]
    rcases mem_blocks_block.mp mem with rfl | mem | mem
    · simp only
      omega
    · have := inner mem
      omega
    · have := behind mem
      omega

/-- Blocks come in the order of their beginnings and numbers. -/
theorem blocks_ordered (o : Outline) (i n : Nat) : (o.blocks i n).Pairwise Block.Before := by
  induction o generalizing i n with
  | done => exact .nil
  | command c rest ih => exact ih _ _
  | block head body rest inner behind =>
    refine List.pairwise_cons.mpr ⟨fun c mem => ?_, List.pairwise_append.mpr
      ⟨inner _ _, behind _ _, fun b mem c mem' => ?_⟩⟩
    · rcases List.mem_append.mp mem with mem | mem
      · obtain ⟨first, last⟩ := places_of_mem mem
        have after : c.stop < i + (body.commands (n + head.numbers)).length + 1 := by omega
        exact ⟨.inr ⟨first, after⟩, (number_of_mem mem).1⟩
      · have first : i + (body.commands (n + head.numbers)).length + 1 < c.start :=
          (places_of_mem mem).1
        have number := (number_of_mem mem).1
        exact ⟨.inl first, by simp only; omega⟩
    · obtain ⟨-, last⟩ := places_of_mem mem
      obtain ⟨first, -⟩ := places_of_mem mem'
      have number := (number_of_mem mem).2
      have number' := (number_of_mem mem').1
      exact ⟨.inl (by omega), by omega⟩

/-- A label in line is one that a statement names, or the end of a check block. -/
theorem label_of_mem {o : Outline} {n : Nat} {name : Text} (i : Nat)
    (mem : .label name ∈ o.commands n) :
    name ∈ o.labels ∨ ∃ b ∈ o.blocks i n, b.head.numbers = 1 ∧ name = skipName b.number := by
  induction o generalizing i n with
  | done => cases mem
  | command c rest ih =>
    rw [labels, List.mem_append]
    rcases List.mem_cons.mp mem with rfl | mem
    · exact .inl (.inl List.mem_cons_self)
    · exact (ih (i + 1) mem).imp_left .inr
  | block head body rest inner behind =>
    simp only [commands, List.cons_append, List.mem_cons, List.mem_append] at mem
    simp only [mem_blocks_block, labels, List.mem_append]
    rcases mem with opens | mem | closes | mem
    · cases head <;> cases opens
    · rcases inner (i + 1) mem with own | ⟨b, mem, check⟩
      · exact .inl (.inl own)
      · exact .inr ⟨b, .inr (.inl mem), check⟩
    · cases head with
      | check => exact .inr ⟨_, .inl rfl, rfl, Command.label.inj closes⟩
      | loading => cases closes
    · rcases behind _ mem with own | ⟨b, mem, check⟩
      · exact .inl (.inr own)
      · exact .inr ⟨b, .inr (.inr mem), check⟩

end Outline

end VisualNovel
