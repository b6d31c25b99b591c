import VisualNovel.Proofs.Engine.Stock
import VisualNovel.Proofs.Number.Order

/-!
The next command.

The number of the next command and the program belong together, but they are changed by different
actions. A jump goes to a label, a step to the command behind, an open map over the points that belong
to it, and all of these stay inside the program that is played (`State.Change.inside`). A snapshot is
refused if it leads behind its program. What is left is a call: it takes up another program before it
looks for the label, so that a label which is not there, or which is the reserved one, leaves the old
number with the new program (`call_astray`). Where all calls of a project lead to labels, the next
command is always one of the program, or the program is done (`next_inside`).
-/

namespace VisualNovel

variable {τ : Type}

/-! ## 1. Steps inside a program -/

theorem Ordinal.advance_nth (n k : Nat) : (Ordinal.nth n).advance k = .nth (n + k) := by
  induction k generalizing n with
  | zero => rfl
  | succ k ih =>
    rw [advance, next, ih]
    congr 1
    omega

theorem Action.length_leadingPoints (commands : List Command) :
    (leadingPoints commands).length ≤ commands.length := by
  fun_induction leadingPoints commands with
  | case1 _ _ _ _ rest ih => simpa using ih
  | case2 => exact Nat.zero_le _

/-- The points behind a command are commands of the program. -/
theorem State.Inside.over_points {s : State τ} {commands : List Command}
    (h : s.Inside commands.length) :
    ∃ n ≤ commands.length,
      s.index.advance (Action.leadingPoints (s.index.suffix commands)).length = .nth n := by
  obtain ⟨n, inside, place⟩ := h
  refine ⟨_, ?_, by rw [place, Ordinal.advance_nth]⟩
  have few := Action.length_leadingPoints (commands.drop n)
  rw [List.length_drop] at few
  rw [Ordinal.suffix]
  omega

/-- Every change of a state stays inside the program, if its labels do. -/
theorem State.Change.inside [Clock τ] {program : Program} {s t : State τ}
    (labels : ∀ name i, program.labels.get? name = some i → i ≤ program.commands.size)
    (change : s.Change program t) (h : s.Inside program.commands.size) :
    t.Inside program.commands.size := by
  cases change with
  | hideSprite name transition =>
    obtain ⟨_, _, same⟩ := s.hideSprite_frame name transition
    rw [same]
    exact h
  | @animate name sprite found goal seconds ease mem now =>
    obtain ⟨_, _, same⟩ := s.animate_frame name sprite goal seconds ease now
    rw [same]
    exact h
  | takeItem id amount =>
    obtain ⟨_, same⟩ := s.takeItem_frame id amount
    rw [same]
    exact h
  | showMap free known image behind =>
    subst behind
    have whole : program.commands.size = program.commands.toList.length := by simp
    rw [whole] at h ⊢
    exact h.over_points
  | next running =>
    obtain ⟨n, inside, place⟩ := h
    have behind := (State.free_of_running running).2
    rw [place] at behind
    refine ⟨n + 1, ?_, by rw [place]; rfl⟩
    exact Nat.not_le.mp (of_decide_eq_false behind)
  | goto found => exact ⟨_, labels _ _ found, rfl⟩
  | _ => exact h

/-! ## 2. Snapshots that are refused -/

/-- A natural number, which may be too great to be counted. -/
def Ordinal.Natural : Ordinal → Prop
  | .nth _ => True
  | .stray x => ∃ n, Number.toNat? x = some n ∧ bound ≤ n

/-- A natural number that is not behind a program is inside it. -/
theorem Ordinal.Natural.inside {p : Ordinal} (h : p.Natural) {size : Nat} (small : size < bound)
    (refused : p.exceeds size = false) : ∃ n ≤ size, p = .nth n := by
  cases p with
  | nth n => exact ⟨n, by simpa [exceeds] using refused, rfl⟩
  | stray x =>
    obtain ⟨n, whole, large⟩ := h
    have less : Float.ofNat size < x := Number.ofNat_lt_of_toNat? small whole large
    simp [exceeds, less] at refused

theorem Ordinal.natural_ofNumber {x : Float}
    (whole : (Number.toNat? (Ordinal.ofNumber x).number).isSome = true) :
    (Ordinal.ofNumber x).Natural := by
  unfold ofNumber at whole ⊢
  split at whole
  · next n found =>
    split
    · trivial
    · next large => exact ⟨n, found, Nat.not_lt.mp large⟩
  · next none =>
    rw [number, none] at whole
    cases whole

theorem Snapshot.index_of_read? {rules : Rules} {j : Json} {data : Snapshot Float}
    (h : read? rules j = some data) : ∃ x, data.index = Ordinal.ofNumber x := by
  unfold read? at h
  obtain ⟨_, _, h⟩ := Option.bind_eq_some_iff.mp h
  obtain ⟨index, read, h⟩ := Option.bind_eq_some_iff.mp h
  -- The fields behind do not matter.
  iterate 18 obtain ⟨_, _, h⟩ := Option.bind_eq_some_iff.mp h
  cases h
  obtain ⟨value, _, number⟩ := Option.bind_eq_some_iff.mp read
  obtain ⟨x, _, rfl⟩ := Option.map_eq_some_iff.mp number
  exact ⟨x, rfl⟩

/-- A save file tells a natural number for the next command. -/
theorem Snapshot.natural_of_load {files : FileTree} {path : Text} {data : Snapshot Float}
    (found : (Snapshot.load files path).1 = some data) : data.index.Natural := by
  unfold Snapshot.load at found
  split at found
  · cases found
  · split at found
    · cases found
    · next j _ =>
      split at found
      · next read =>
        cases found
        unfold ofJson? at read
        obtain ⟨_, _, read⟩ := Option.bind_eq_some_iff.mp read
        obtain ⟨again, read, rest⟩ := Option.bind_eq_some_iff.mp read
        obtain ⟨valid, same⟩ := Option.ite_none_right_eq_some.mp rest
        cases same
        obtain ⟨x, form⟩ := index_of_read? read
        simp only [Bool.and_eq_true] at valid
        rw [form] at valid ⊢
        exact Ordinal.natural_ofNumber valid.1.1.2
      · cases found

/-! ## 3. Games inside their programs -/

/-- Every call in a script of a project leads to a label of the script that it names. -/
def CallsLand (original : Text → Option Text) : Prop :=
  ∀ script program, Reading original script program →
    ∀ path resolved label, .call path resolved label ∈ program.commands →
      ∀ called, Reading original (Path.absolute resolved) called →
        stripRootMark label ≠ inventoryToggle ∧
          called.labels.contains (stripRootMark label) = true

/-- The programs of a project are not too long to be counted. -/
def Countable (original : Text → Option Text) : Prop :=
  ∀ script program, Reading original script program → program.commands.size < Ordinal.bound

variable [Clock τ] {original : Text → Option Text}

/-- A game over programs of a project, inside the one that it plays. -/
structure Game.Inside (original : Text → Option Text) (g : Game τ) : Prop where
  stocked : g.Stocked original
  next : g.state.Inside g.program.commands.size

omit [Clock τ] in
theorem State.inside_start (program : Program) (size : Nat) :
    (({} : State τ).introduceAll program).Inside size := by
  obtain ⟨characters, same⟩ := ({} : State τ).introduceAll_frame program
  rw [same]
  exact ⟨0, Nat.zero_le _, rfl⟩

/-- Every change of a game stays inside its program, if calls lead to labels. -/
theorem Game.Change.inside (lands : CallsLand original) (countable : Countable original)
    {given : Snapshot τ → Prop} (handed : ∀ data, given data → data.index.Natural)
    {g t : Game τ} (change : Game.Change given g t) (h : g.Inside original) :
    t.Inside original := by
  refine ⟨change.stocked h.stocked, ?_⟩
  cases change with
  | state change =>
    refine change.inside (fun name i found => ?_) h.next
    exact Nat.le_of_lt (h.stocked.program.wellFormed.labels name i found)
  | around | request | openVideo | lookVideo | closeVideo | load | evict | clearLibrary | save =>
    exact h.next
  | call mem free shelved found =>
    have read := h.stocked.shelf _ _ shelved
    exact ⟨_, Nat.le_of_lt (read.wellFormed.labels _ _ found), rfl⟩
  | stray mem free shelved nowhere =>
    obtain ⟨other, known⟩ := lands _ _ h.stocked.program _ _ _ mem _ (h.stocked.shelf _ _ shelved)
    rcases nowhere with reserved | missing
    · exact absurd reserved other
    · rw [Table.contains, missing] at known
      cases known
  | restart => exact State.inside_start _ _
  | @resume data program source offers behind =>
    have natural : data.index.Natural := by
      rcases source with own | ⟨path, saved, found, rfl⟩
      · exact handed data own
      · exact Snapshot.natural_of_load found
    have read := h.stocked.offered (Path.absolute_resolve g.setup.root _) offers
    obtain ⟨n, inside, place⟩ := natural.inside (countable _ _ read) behind
    obtain ⟨characters, same⟩ := (data.toState g.now).introduceAll_frame program
    rw [same]
    exact ⟨n, inside, place⟩

/-- Where the calls of a project lead to labels, the next command of every game that is played is one
of its program, or the program is done. Every operation may be used, also after failures, and every
snapshot with a natural number may be handed over. -/
theorem next_inside {setup : Setup τ} {library : Library} {files : FileTree} {program : Program}
    (texts : files.Within original) (read : Reading original program.script program)
    (shelf : ∀ script edition, library.shelf.get? script = some edition →
      Reading original script edition.program)
    (lands : CallsLand original) (countable : Countable original)
    {taken : List (Snapshot τ)} {g : Game τ}
    (played : Played (fun _ op => ∀ data, op.Hands data → data.index.Natural)
      (Game.start setup library files program) taken g) :
    ∃ n ≤ g.program.commands.size, g.state.index = .nth n := by
  have start : (Game.start setup library files program).Inside original :=
    ⟨.start texts.holds read shelf, State.inside_start _ _⟩
  have natural : ∀ g : Game τ, g.Inside original → g.snapshot.index.Natural := by
    intro g h
    obtain ⟨n, _, place⟩ := h.next
    simp only [Game.snapshot, Snapshot.ofState, place, Ordinal.Natural]
  exact (played.invariant start natural (fun _ _ ok _ => ok)
    fun given g t handed change => change.inside lands countable handed).1.next

/-- A story that goes round. -/
def roundSource : Text := "label a: \"Hello.\"; call \"main.vn\" a;"

/-- The story is told up to its first line. -/
theorem next_inside_round :
    ∃ program reached,
      Program.ofFile (soloFiles roundSource) false (.nth 0) "/game/main.vn" =
        .ok (program, reached) ∧
      let g : Game Float := Operation.run.after (gameIn (soloFiles roundSource) program)
      ∃ n ≤ g.program.commands.size, g.state.index = .nth n := by
  obtain ⟨⟨program, reached⟩, found, form⟩ := exists_ok
    (x := Program.ofFile (soloFiles roundSource) false (.nth 0) "/game/main.vn")
    (f := fun r => (r.1.commands, r.1.labels))
    (b := (#[.label "a", .say none "Hello.", .call "main.vn" "/game/main.vn" "a"], ⟨[("a", 0)]⟩))
    (by decide +kernel)
  obtain ⟨commands, labels⟩ := Prod.mk.inj form
  have read : Reading (soloFiles roundSource).text? "/game/main.vn" program :=
    Reading.ofFile (FileTree.within_text? _).holds found
  have only : ∀ {script other}, Reading (soloFiles roundSource).text? script other →
      other = program := by
    intro script other reading
    obtain rfl := script_of_solo reading
    exact reading.unique read
  have lands : CallsLand (soloFiles roundSource).text? := by
    intro script other reading path resolved label mem called reads
    obtain rfl := only reading
    obtain rfl := only reads
    rw [commands] at mem
    obtain ⟨-, -, rfl⟩ : path = "main.vn" ∧ resolved = "/game/main.vn" ∧ label = "a" := by
      simpa using mem
    rw [labels]
    decide +kernel
  have countable : Countable (soloFiles roundSource).text? := by
    intro script other reading
    obtain rfl := only reading
    rw [commands]
    decide
  have played : Played (fun _ op => ∀ data, op.Hands data → data.index.Natural)
      (gameIn (τ := Float) (soloFiles roundSource) program) []
      (Operation.run.after (gameIn (soloFiles roundSource) program)) :=
    .act .start fun data hands => by cases hands
  refine ⟨program, reached, found, ?_⟩
  exact next_inside (FileTree.within_text? _) (read.own rfl) (fun _ _ found => by cases found) lands
    countable played

/-! ## 4. Calls that lead astray -/

/-- A script that calls another one by the name that is no label. -/
def strayFiles : FileTree :=
  ⟨⟨[("/game/main.vn", .file "label a: label b: call \"b.vn\" inventory_toggle;"),
    ("/game/b.vn", .file "label c:")]⟩⟩

/-- The call is done, and the next command is the fourth one of a program of one command. -/
theorem next_behind_program :
    ∃ (program : Program) (g : Game Float),
      Reading strayFiles.text? program.script program ∧
      Played OwnSnapshots (gameIn (τ := Float) strayFiles program) [] g ∧
      g.state.index = .nth 3 ∧ g.program.commands.size = 1 := by
  obtain ⟨⟨program, reached⟩, found, result⟩ := exists_ok
    (x := Program.ofFile strayFiles false (.nth 0) "/game/main.vn")
    (f := fun r =>
      let g : Game Float := Operation.run.after (gameIn strayFiles r.1)
      (g.state.index, g.program.commands.size))
    (b := (.nth 3, 1)) (by decide +kernel)
  obtain ⟨index, size⟩ := Prod.mk.inj result
  have read := Reading.ofFile (FileTree.within_text? _).holds found
  have played : Played OwnSnapshots (gameIn (τ := Float) strayFiles program) []
      (Operation.run.after (gameIn strayFiles program)) :=
    .act .start (ownSnapshots_of_ne fun _ => nofun)
  exact ⟨program, _, read.own rfl, played, index, size⟩

end VisualNovel
