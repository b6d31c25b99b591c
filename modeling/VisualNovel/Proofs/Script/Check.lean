import VisualNovel.Engine.Run
import VisualNovel.Proofs.Number.Comparison
import VisualNovel.Proofs.Script.Draft

/-!
Check blocks.

A check with a block becomes a jump over the block, taken under the opposite operator. Opposite
operators exclude each other between numbers, and so do `==` and `!=` between any two values
(`negate_holds`). An order between values of which one has no numeric view never holds, though, and
neither does its opposite: there the jump is not taken and the block is played although its
condition fails. `check_block_runs` says exactly when the block is played, for every check of every
file of a program. The form without a block has no opposite operator and jumps just when its
condition holds (`step_jumpIf`).
-/

namespace VisualNovel

/-! ## 1. Opposite operators -/

/-- Numeric views are never the error value. -/
theorem Value.ordered_number? {v : Value} {x : Float} (h : v.number? = some x) :
    Number.Ordered x := by
  cases v with
  | num y =>
    simp only [number?] at h
    split at h
    · cases h
      exact Number.ordered_of_isFinite ‹_›
    · cases h
  | str t => exact Number.ordered_ofNumeral h
  | bool b =>
    cases b with
    | true =>
      cases h
      decide
    | false =>
      cases h
      decide

namespace CompareOp

/-- The operator asks for an order. -/
def isOrder : CompareOp → Bool
  | .eq | .ne => false
  | .gt | .ge | .lt | .le => true

/-- Both sides have a numeric view. -/
def comparable (left right : Option Value) : Bool :=
  (left.bind Value.number?).isSome && (right.bind Value.number?).isSome

theorem negate_holdsOf (op : CompareOp) {a b : Float} (ha : Number.Ordered a)
    (hb : Number.Ordered b) : op.negate.holdsOf a b = !op.holdsOf a b := by
  have hlt := Number.decide_le_eq_not_lt ha hb
  have hgt := Number.decide_le_eq_not_lt hb ha
  cases op <;> simp [negate, holdsOf, hlt, hgt]

/-- Of an operator and its opposite exactly one holds, unless an order is asked for that does not
exist; then neither does. -/
theorem negate_holds (op : CompareOp) (left right : Option Value) :
    op.negate.holds left right =
      (!op.holds left right && !(op.isOrder && !comparable left right)) := by
  unfold holds comparable
  cases hl : left.bind Value.number? with
  | none => cases op <;> simp [negate, isOrder]
  | some a =>
    cases hr : right.bind Value.number? with
    | none => cases op <;> simp [negate, isOrder]
    | some b =>
      obtain ⟨v, -, hv⟩ := Option.bind_eq_some_iff.mp hl
      obtain ⟨w, -, hw⟩ := Option.bind_eq_some_iff.mp hr
      simp [negate_holdsOf op (Value.ordered_number? hv) (Value.ordered_number? hw)]

end CompareOp

/-! ## 2. The commands of a check -/

namespace Statement

/-- The label behind the block of the next check. -/
def skipLabel (d : Draft) : Text := checkMark ++ d.counter.next.text

theorem skipLabel_plain (d : Draft) :
    (skipLabel d).startsWith rootMark = false ∧ skipLabel d ≠ inventoryToggle ∧
      skipLabel d ≠ unrecordedName :=
  checkMark_plain _

/-- A check with a block: a jump under the opposite operator, the commands of the block, and the
label that the jump leads to. -/
theorem check_block {body : Builder Unit} (hbody : ∀ u, Builds (Draft.Continues u) body fun _ => True)
    {d d' : Draft} {c : Cursor} {name : Text} {op : CompareOp} {value : Operand}
    (hlexed : d.cursor.Lexed) (hcondition : condition d.cursor = .ok (name, op, value) c)
    (hbrace : c.kind = some .lbrace) (h : check body d = .ok () d') :
    ∃ inner : Array Command,
      d'.commands = (d.commands.push (.jumpIf name op.negate value (skipLabel d)) ++ inner).push
        (.label (skipLabel d)) ∧
      d'.labels.get? (skipLabel d) = some (d.commands.size + 1 + inner.size) := by
  let ahead : Draft :=
    { d with
      cursor := c
      counter := d.counter.next
      commands := d.commands.push (.jumpIf name op.negate value (skipLabel d)) }
  have hread : Builder.read condition d = .ok (name, op, value) { d with cursor := c } := by
    simp [Builder.read, hcondition]
  have hahead : (body >>= fun _ => Builder.label (skipLabel d)) ahead = .ok () d' := by
    unfold check at h
    rw [run_bind_ok hread] at h
    simp only [run_bind, Builder.look, Builder.push, hbrace, ↓reduceIte, run_get, run_modify] at h
    rw [run_bind]
    exact h
  obtain ⟨_, behind, hinside, hlabel⟩ := run_bind_eq_ok.mp hahead
  obtain ⟨hnew, rfl⟩ := Builder.label_eq_ok hlabel
  have hcontinues : ahead.Continues ahead.unit := .self (reads_condition.lexed hlexed hcondition)
  obtain ⟨inner, hinner⟩ := ((hbody ahead.unit) ahead hcontinues _ _ hinside).1.whole.commands
  have hcommands : behind.commands = ahead.commands ++ inner := hinner
  refine ⟨inner, ?_, ?_⟩
  · simp only [hcommands, ahead]
  · simp only [Builder.setLabel, if_neg (skipLabel_plain d).2.2, Table.get?_set_self, hcommands,
      Array.size_append, ahead, Array.size_push]

end Statement

/-! ## 3. Conditional jumps -/

namespace Action

variable {τ : Type} [Clock τ]

/-- A conditional jump to a label of the program goes there just when its condition holds, and
changes nothing else. -/
theorem step_jumpIf {game : Game τ} {name : Text} {op : CompareOp} {value : Operand} {target : Text}
    {i : Nat}
    (hcommand : game.program.commandAt? game.state.index = some (.jumpIf name op value target))
    (htoggle : stripRootMark target ≠ inventoryToggle)
    (hlabel : game.program.labels.get? (stripRootMark target) = some i) :
    step game = .ok () { game with
      state := { game.state with
        index := if op.holds (game.state.vars.get? name) (value.value? game.state.vars) then .nth i
          else game.state.index.next } } := by
  unfold step
  rw [run_bind_ok (run_get game)]
  simp only [hcommand]
  cases hholds : op.holds (game.state.vars.get? name) (value.value? game.state.vars) with
  | true => simp [run_bind, change, execute, hholds, jump, htoggle, hlabel]
  | false => simp [run_bind, change, execute, hholds]

end Action

/-! ## 4. Which blocks are played -/

/-- A check with a block, in any file of a program: the block is played just when the condition
holds, or asks for an order with a side that has no numeric view. Otherwise the story goes on at
the label behind the block. -/
theorem check_block_runs {files : FileTree} {strict : Bool} {counter reached : Ordinal}
    {path source : Text} {program : Program}
    (hprogram : Program.ofSource files strict counter path source = .ok (program, reached))
    {offset : Nat} {scopes : List Text} {part : Source}
    (hinc : Included files (.outermost files counter path source) offset scopes part)
    (hs : ∀ scope ∈ scopes, Text.startsWith scope rootMark = false)
    {unit : ScriptUnit} {last : Ordinal} (hunit : part.unit files = .ok (unit, last))
    {fuel : Nat} {d d' : Draft} {c : Cursor} {name : Text} {op : CompareOp} {value : Operand}
    (hlexed : d.cursor.Lexed)
    (hcondition : Statement.condition d.cursor = .ok (name, op, value) c)
    (hbrace : c.kind = some .lbrace)
    (hcheck : Statement.check (Statement.inBraces (Statement.inBlock files fuel)) d = .ok () d')
    (hstage : d'.unit.Extends unit)
    {τ : Type} [Clock τ] (game : Game τ) (hgame : game.program = program)
    (hindex : game.state.index = .nth (offset + d.commands.size)) :
    ∃ inner : Array Command,
      d'.commands =
        (d.commands.push (.jumpIf name op.negate value (Statement.skipLabel d)) ++ inner).push
          (.label (Statement.skipLabel d)) ∧
      Action.step game = .ok () { game with
        state := { game.state with
          index := .nth (offset + d.commands.size + 1 +
            if op.holds (game.state.vars.get? name) (value.value? game.state.vars) ||
              (op.isOrder && !CompareOp.comparable (game.state.vars.get? name)
                (value.value? game.state.vars)) then 0
            else inner.size) } } := by
  obtain ⟨inner, hcommands, hlabel⟩ := Statement.check_block
    (fun u => Statement.builds_inBraces (Draft.kept_continues files u)
      (Statement.builds_inBlock (Draft.kept_continues files u) fuel))
    hlexed hcondition hbrace hcheck
  obtain ⟨hmark, htoggle, -⟩ := Statement.skipLabel_plain d
  obtain ⟨unit', last', hunit', hstands, hfound⟩ := hinc.inProgram hprogram hs
  cases hunit.symm.trans hunit'
  have hjump : d'.unit.commands[d.commands.size]? =
      some (.jumpIf name op.negate value (Statement.skipLabel d)) := by
    simp [Draft.unit, hcommands, Array.getElem?_append]
  have hcommand : game.program.commandAt? game.state.index =
      some (.jumpIf name op.negate value (dotted scopes (Statement.skipLabel d))) := by
    rw [hgame, hindex, ← linked_of_plain hmark htoggle]
    exact hstands _ _ (hstage.command hjump)
  obtain ⟨hplain, hdotted⟩ := dotted_plain hs hmark htoggle
  have hstrip : stripRootMark (dotted scopes (Statement.skipLabel d)) =
      dotted scopes (Statement.skipLabel d) := by
    simp [stripRootMark, hplain]
  have htarget : game.program.labels.get? (stripRootMark (dotted scopes (Statement.skipLabel d))) =
      some (offset + (d.commands.size + 1 + inner.size)) := by
    rw [hstrip, hgame]
    exact hfound _ _ (hstage.label _ _ hlabel)
  refine ⟨inner, hcommands, ?_⟩
  rw [Action.step_jumpIf hcommand (by rwa [hstrip]) htarget, CompareOp.negate_holds, hindex]
  cases op.holds (game.state.vars.get? name) (value.value? game.state.vars) <;>
    cases op.isOrder && !CompareOp.comparable (game.state.vars.get? name)
      (value.value? game.state.vars) <;>
    simp [Ordinal.next, Nat.add_assoc]

/-- A script of one check. -/
def checkSource : Text := "check x > 5 \x7b \"inside\"; \x7d"

/-- The draft of this script when its first word is read. -/
def checkDraft : Draft where
  cursor :=
    { tokens := ((tokenize checkSource none).toOption.getD []).toArray, file := "/main.vn",
      index := 1 }
  counter := .nth 0

/-- The unit of this script. -/
def checkUnit : ScriptUnit :=
  ⟨#[.jumpIf "x" .le (.literal (.num 5.0)) "__check_skip_1", .say none "inside",
    .label "__check_skip_1"], ⟨[("__check_skip_1", 2)]⟩⟩

/-- A game over a program in which one variable is set. -/
def gameWith (program : Program) (name : Text) (value : Value) : Game Float :=
  let game := Game.start { root := "/", savePath := "/quick.json", assetRoot := "/" } {} {} program
  { game with state := { game.state with vars := game.state.vars.set name value } }

theorem check_block_runs_on_text :
    ∃ program reached game',
      Program.ofSource {} true (.nth 0) "/main.vn" checkSource = .ok (program, reached) ∧
      CompareOp.gt.holds (some (.str "abc")) (some (.num 5.0)) = false ∧
      Action.step (gameWith program "x" (.str "abc")) = .ok () game' ∧
      game'.state.index = .nth 1 := by
  obtain ⟨⟨program, reached⟩, hprogram, hindex⟩ := exists_ok
    (f := fun r => (gameWith r.1 "x" (.str "abc")).state.index) (b := .nth 0)
    (x := Program.ofSource {} true (.nth 0) "/main.vn" checkSource) (by decide +kernel)
  obtain ⟨⟨unit, last⟩, hunit, hu⟩ := exists_ok (f := fun r => r.1) (b := checkUnit)
    (x := (Source.outermost {} (.nth 0) "/main.vn" checkSource).unit {}) (by decide +kernel)
  obtain ⟨found, c, hcondition, hfound⟩ := exists_run (m := Statement.condition)
    (s := checkDraft.cursor) (f := fun found c => (found, c.kind))
    (b := ((Text.ofString "x", CompareOp.gt, Operand.literal (.num 5.0)), some .lbrace))
    (by decide +kernel)
  obtain ⟨rfl, hbrace⟩ := Prod.mk.inj hfound
  obtain ⟨_, d', hcheck, hd'⟩ := exists_run
    (m := Statement.check (Statement.inBraces (Statement.inBlock {} 9))) (s := checkDraft)
    (f := fun _ d => d.unit) (b := checkUnit) (by decide +kernel)
  have hlexed : checkDraft.cursor.Lexed := by
    unfold Cursor.Lexed
    decide +kernel
  have hstage : d'.unit.Extends unit := by
    rw [hd', ← hu]
    exact .refl _
  obtain ⟨inner, -, hstep⟩ := check_block_runs hprogram (.self _) (by simp) hunit hlexed hcondition
    hbrace hcheck hstage (gameWith program "x" (.str "abc")) rfl hindex
  refine ⟨program, reached, _, hprogram, by decide +kernel, hstep, ?_⟩
  have hx : (gameWith program "x" (.str "abc")).state.vars.get? "x" = some (.str "abc") :=
    Table.get?_set_self _ _ _
  have hplayed : (CompareOp.gt.holds (some (.str "abc")) (some (.num 5.0)) ||
      (CompareOp.gt.isOrder &&
        !CompareOp.comparable (some (.str "abc")) (some (.num 5.0)))) = true := by
    decide +kernel
  simp only [hx, Operand.value?, hplayed, ↓reduceIte]
  rfl

/-- What the story says first in a script. -/
def firstLine (source : Text) : Option Text :=
  match Program.ofSource {} true (.nth 0) "/main.vn" source with
  | .error _ => none
  | .ok (program, _) =>
    let setup : Setup Float := { root := "/", savePath := "/quick.json", assetRoot := "/" }
    match Action.run (Game.start setup {} {} program) with
    | .error _ _ => none
    | .ok _ game => game.state.dialogue.map (·.text)

/-- A text has no place in the order of numbers: the condition fails and its jump is not taken, but
its block is played. -/
theorem block_played_against_condition :
    CompareOp.gt.holds (some (.str "abc")) (some (.num 5.0)) = false ∧
      firstLine "set x \"abc\"; check x > 5 go there; \"after\"; label there: \"jumped\";" =
        some "after" ∧
      firstLine "set x \"abc\"; check x > 5 \x7b \"inside\"; \x7d \"after\";" =
        some "inside" := by
  refine ⟨?_, ?_, ?_⟩ <;> decide +kernel

end VisualNovel
