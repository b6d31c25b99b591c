import VisualNovel.Proofs.Engine.Counter
import VisualNovel.Proofs.Engine.Sound
import VisualNovel.Proofs.Relay.Play

/-!
What a snapshot keeps of a game.

For a game to go on from its snapshot, everything that the story can see must come back. A record
leaves out one name, so a state must not use it (`State.Kept`); besides, the state must be regular and
orderly, and its next command must be one of its program. `Game.Told` puts this together, and every
change keeps it (`Game.Change.told`). A state comes back as a twin then (`Snapshot.twin_toState`).
-/

namespace VisualNovel

variable {τ : Type}

/-! ## 1. Names that a record keeps -/

/-- Whatever a state has under names is under one that a record keeps. Sprites are left out. -/
structure State.Kept (s : State τ) : Prop where
  inventory : unrecordedName ∉ s.inventory.keys
  meters : unrecordedName ∉ s.meters.keys
  characters : unrecordedName ∉ s.characters.keys

/-- The same for a snapshot. -/
structure Snapshot.Kept (data : Snapshot τ) : Prop where
  inventory : unrecordedName ∉ data.inventory.keys
  meters : unrecordedName ∉ data.meters.keys
  characters : unrecordedName ∉ data.characters.keys

/-- A program puts nothing under the name that no record keeps. -/
structure Program.Recorded (program : Program) : Prop where
  names : ¬ program.Names unrecordedName
  characters : ∀ c, .define c ∈ program.commands → c.ident ≠ unrecordedName

namespace State

variable {s t : State τ} {program : Program}

theorem Change.kept [Clock τ] (recorded : program.Recorded) (change : s.Change program t)
    (h : s.Kept) : t.Kept := by
  have other : ∀ {name : Text}, program.Names name → name ≠ unrecordedName := by
    rintro name named rfl
    exact recorded.names named
  have set : ∀ {α : Type} {table : Table α} {name : Text} (value : α),
      unrecordedName ∉ table.keys → name ≠ unrecordedName →
      unrecordedName ∉ (table.set name value).keys := by
    intro α table name value missing other mem
    rcases Table.mem_keys_set.mp mem with same | old
    · exact other same.symm
    · exact missing old
  have erase : ∀ {α : Type} {table : Table α} (name : Text), unrecordedName ∉ table.keys →
      unrecordedName ∉ (table.erase name).keys :=
    fun name missing mem => missing (Table.mem_keys_erase.mp mem).1
  cases change with
  | hideSprite name transition =>
    obtain ⟨_, _, same⟩ := s.hideSprite_frame name transition
    rw [same]
    exact { h with }
  | @animate name sprite found goal seconds ease mem now =>
    obtain ⟨_, _, same⟩ := s.animate_frame name sprite goal seconds ease now
    rw [same]
    exact { h with }
  | refreshMeter name =>
    refine { h with meters := ?_ }
    rw [State.refreshMeter, Table.keys_modify]
    exact h.meters
  | setMeter named meter => exact { h with meters := set meter h.meters (other named) }
  | eraseMeter name => exact { h with meters := erase name h.meters }
  | clearMeters => exact { h with meters := by simp [Table.keys] }
  | addItem named item =>
    refine { h with inventory := ?_ }
    unfold State.addItem
    simp only
    split <;> exact set _ h.inventory (other named)
  | takeItem id amount =>
    unfold State.takeItem
    split
    · exact h
    · next old found =>
      refine { h with inventory := ?_ }
      simp only
      split
      · exact erase id h.inventory
      · refine set _ h.inventory ?_
        rintro rfl
        exact h.inventory (Table.mem_keys_of_get? found)
  | clearItems => exact { h with inventory := by simp [Table.keys] }
  | define mem free =>
    exact { h with characters := set _ h.characters (recorded.characters _ mem) }
  | _ => exact { h with }

theorem Kept.introduceAll (recorded : program.Recorded) (h : s.Kept) :
    (s.introduceAll program).Kept := by
  have characters : unrecordedName ∉ (s.introduceAll program).characters.keys := by
    intro mem
    rcases mem_keys_introduceAll.mp mem with ⟨c, defined, same⟩ | old
    · exact recorded.characters c defined same
    · exact h.characters old
  obtain ⟨_, same⟩ := s.introduceAll_frame program
  rw [same] at characters ⊢
  exact { h with characters }

theorem kept_start (recorded : program.Recorded) : (({} : State τ).introduceAll program).Kept := by
  have empty : ({} : State τ).Kept := ⟨by simp [Table.keys], by simp [Table.keys], by simp [Table.keys]⟩
  exact empty.introduceAll recorded

end State

namespace Snapshot.Kept

variable {data : Snapshot τ}

theorem ofState [Clock τ] {s : State τ} (regular : s.Regular) (script : Text) (now : τ) :
    (Snapshot.ofState s script now).Kept where
  inventory := by
    rw [Snapshot.ofState, regular.inventory.recorded_eq, Table.mem_keys_erase]
    exact fun mem => mem.2 rfl
  meters := by
    rw [Snapshot.ofState, regular.meters.recorded_eq, Table.mem_keys_erase]
    exact fun mem => mem.2 rfl
  characters := by
    rw [Snapshot.ofState, regular.characters.recorded_eq, Table.mem_keys_erase]
    exact fun mem => mem.2 rfl

theorem mapTime {σ : Type} (h : data.Kept) (f : τ → σ) : (data.mapTime f).Kept := { h with }

theorem toState [Clock τ] (h : data.Kept) (now : τ) : (data.toState now).Kept :=
  { h with characters := by simpa [Snapshot.toState] using h.characters }

theorem reread {data found : Snapshot Float} (h : data.Kept) (faithful : data.Faithful)
    (again : data.Reread found) : found.Kept where
  inventory := by
    rw [again.inventory faithful.inventory]
    exact h.inventory
  meters := by
    rw [again.meters faithful.meters]
    exact h.meters
  characters := by
    rw [again.characters faithful.characters]
    exact h.characters

end Snapshot.Kept

/-! ## 2. Games of a story -/

variable [Clock τ]

/-- A project whose story can be told in parts. -/
structure FileTree.Relayed (τ : Type) [Clock τ] (files : FileTree) : Prop where
  noSaves : NoSaves files.text?
  lands : CallsLand files.text?
  countable : Countable files.text?
  commands : ∀ script program, Reading files.text? script program →
    ∀ c ∈ program.commands, c.Relayed τ
  recorded : ∀ script program, Reading files.text? script program → program.Recorded

/-- A snapshot of the story. -/
structure Snapshot.Told (files : FileTree) (root : Text) (data : Snapshot τ) : Prop where
  genuine : data.Genuine files.text? root
  orderly : data.Orderly
  natural : data.index.Natural
  kept : data.Kept

/-- A game of the story. -/
structure Game.Told (files : FileTree) (setup : Setup τ) (g : Game τ) : Prop where
  place : g.setup = setup
  sound : g.Sound files.text? setup.root
  inside : g.Inside files.text?
  orderly : g.Orderly files.text?
  kept : g.state.Kept
  saves : g.files.Saves files.text? fun data => data.Faithful ∧ data.Kept

namespace Game

variable {files : FileTree} {setup : Setup τ} {g t : Game τ}

theorem Told.snapshot (h : g.Told files setup) : g.snapshot.Told files setup.root where
  genuine := h.sound.snapshot
  orderly := h.orderly.snapshot
  natural := by
    obtain ⟨n, _, place⟩ := h.inside.next
    simp only [Game.snapshot, Snapshot.ofState, place, Ordinal.Natural]
  kept := .ofState h.sound.regular _ _

/-- Every change of a game keeps it one of the story. -/
theorem Change.told (relayed : files.Relayed τ) {given : Snapshot τ → Prop}
    (handed : ∀ data, given data → data.Told files setup.root) (change : Game.Change given g t)
    (h : g.Told files setup) : t.Told files setup := by
  have sound := change.sound relayed.noSaves (fun data given => (handed data given).genuine) h.sound
  have inside := change.inside relayed.lands relayed.countable
    (fun data given => (handed data given).natural) h.inside
  have orderly := change.orderly relayed.noSaves (fun data given => (handed data given).orderly)
    h.orderly
  have recorded : ∀ {program : Program}, Reading files.text? program.script program →
      program.Recorded := fun read => relayed.recorded _ _ read
  cases change with
  | state change =>
    exact { h with sound, inside, orderly, kept := change.kept (recorded h.sound.stocked.program) h.kept }
  | around | request | load | evict | clearLibrary => exact { h with sound, inside, orderly }
  | openVideo | lookVideo | closeVideo =>
    exact { h with sound, inside, orderly, kept := { h.kept with } }
  | save path =>
    have good := (Snapshot.faithful_ofState h.sound.regular
      (Path.toProject g.setup.root g.program.script) g.now).mapTime Clock.toMillis
    have kept := h.snapshot.kept.mapTime Clock.toMillis
    exact { h with sound, inside, orderly, saves := h.saves.save ⟨good, kept⟩ path }
  | call =>
    exact
      { h with
        sound, inside, orderly
        kept := { h.kept.introduceAll (recorded sound.stocked.program) with } }
  | stray =>
    exact
      { h with
        sound, inside, orderly
        kept := { h.kept.introduceAll (recorded sound.stocked.program) with } }
  | restart =>
    exact
      { h with sound, inside, orderly, kept := State.kept_start (recorded h.sound.stocked.entry) }
  | @resume data program source =>
    have kept : data.Kept := by
      rcases source with own | ⟨path, saved, found, rfl⟩
      · exact (handed data own).kept
      · obtain ⟨written, ⟨faithful, kept⟩, again⟩ := h.saves.load relayed.noSaves found
        exact (kept.reread faithful again).mapTime _
    exact
      { h with
        sound, inside, orderly
        kept := (kept.toState g.now).introduceAll (recorded sound.stocked.program) }

end Game

/-! ## 3. What comes back -/

namespace Snapshot

variable {s : State τ}

/-- What a regular state waits for comes back, at another moment and with its cursor anywhere. -/
theorem twin_waitingOf (regular : s.Regular) (taken now : τ) :
    (choiceOf (waitingOf s taken) now).map Choice.offer = s.choice.map Choice.offer ∧
      questionOf (waitingOf s taken) = s.question ∧
      (waitOf (waitingOf s taken) now).isSome = s.wait.isSome := by
  obtain ⟨choosing, asking⟩ := regular.single
  cases pending : s.choice with
  | some choice =>
    obtain ⟨noQuestion, noWait⟩ := choosing (by rw [pending]; rfl)
    simp [waitingOf, pending, noQuestion, noWait, choiceOf, questionOf, waitOf, Choice.offer,
      Choice.mapTime]
  | none =>
    cases asked : s.question with
    | some question =>
      have noWait := asking (by rw [asked]; rfl)
      simp [waitingOf, pending, asked, noWait, choiceOf, questionOf, waitOf]
    | none =>
      cases waited : s.wait with
      | some wait => simp [waitingOf, pending, asked, waited, choiceOf, questionOf, waitOf]
      | none => simp [waitingOf, pending, asked, waited, choiceOf, questionOf, waitOf]

/-- A regular state comes back as a twin. -/
theorem twin_toState (regular : s.Regular) (kept : s.Kept) (script : Text) (taken now : τ) :
    s.Twin ((ofState s script taken).toState now) := by
  obtain ⟨choice, question, wait⟩ := twin_waitingOf regular taken now
  have characters : s.characters.recorded = s.characters :=
    regular.characters.recorded_of_not_mem kept.characters
  have called : (s.characters.mapNamed fun ident character => { character with ident }) =
      s.characters :=
    regular.characterNames.mapNamed_eq fun _ => rfl
  constructor
  · rfl
  · rfl
  · simp only [toState, ofState, characters, called]
  · simp only [toState, ofState, characters, called]
    exact (dialogueOf_spoken regular.line kept.characters).symm
  · exact choice.symm
  · exact question.symm
  · exact wait.symm
  · exact (regular.inventory.recorded_of_not_mem kept.inventory).symm
  · rfl
  · rfl
  · exact (regular.meters.recorded_of_not_mem kept.meters).symm
  · exact regular.hud.ofEntries_values.symm
  · exact regular.hotspots.ofEntries_values.symm
  · rfl
  · rfl
  · rfl
  · exact (phoneOf_getD regular.phone).symm
  · rfl
  · rfl
  · rfl

/-- A choice that was offered just now comes back as one. -/
theorem fresh_toState (ideal : Clock.Ideal τ) {taken : τ}
    (fresh : ∀ c ∈ s.choice, c.Fresh taken) (script : Text) (now : τ) :
    ∀ c ∈ ((ofState s script taken).toState now).choice, c.Fresh now := by
  intro c found
  change choiceOf (waitingOf s taken) now = some c at found
  cases pending : s.choice with
  | none =>
    have other : choiceOf (waitingOf s taken) now = none := by
      cases asked : s.question with
      | some question => simp [waitingOf, pending, asked, choiceOf]
      | none => cases waited : s.wait <;> simp [waitingOf, pending, asked, waited, choiceOf]
    rw [other] at found
    cases found
  | some choice =>
    have waiting : waitingOf s taken = some (.choice (choice.mapTime (Clock.ago taken))) := by
      simp [waitingOf, pending]
    rw [waiting] at found
    cases found
    obtain ⟨began, time⟩ := fresh choice pending
    refine ⟨?_, time⟩
    have past : Clock.ago taken choice.started = Clock.zero := by
      rw [Clock.ago, began, ideal.max_zero]
    show Clock.sub now (Clock.sub now (Clock.ago taken choice.started)) = Clock.zero
    rw [ideal.sub_sub, past]

end Snapshot

omit [Clock τ] in
/-- Nobody is introduced whom the state knows. -/
theorem State.introduceAll_of_introduced {s : State τ} {program : Program}
    (introduced : s.Introduced program) : s.introduceAll program = s := by
  rw [introduceAll_eq]
  have known : ∀ c, .define c ∈ program.commands.toList → s.characters.contains c.ident = true :=
    fun c mem => Table.mem_keys_iff.mp (introduced c (Array.mem_toList_iff.mp mem))
  generalize program.commands.toList = commands at known
  induction commands with
  | nil => rfl
  | cons command rest ih =>
    have later := ih fun c mem => known c (List.mem_cons_of_mem command mem)
    cases command with
    | define c =>
      rw [List.foldl_cons, introduceOf, introduce, if_pos (known c List.mem_cons_self)]
      exact later
    | _ => exact later

end VisualNovel
