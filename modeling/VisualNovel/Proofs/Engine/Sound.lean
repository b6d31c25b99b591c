import VisualNovel.Proofs.Engine.Stock
import VisualNovel.Proofs.Story.Regular

/-!
What a snapshot of a story gives back.

Every state that a story comes to is regular, so that it comes back from its snapshot
(`snapshot_undone`). That needs more than the state: a line that is shown must be that of its speaker,
also after a load, and then the characters of the program have to be known. A game is `Sound` if its
state is regular and knows the characters of its program, if its programs are those of the project,
and if its files hold the texts of the project and snapshots of the story. The reason that loading
keeps games sound is the invariant itself: a save that is found was written by a sound game, so that
what comes back from it is regular, and its script still gives the program that was played when it was
written.
-/

namespace VisualNovel

variable {τ : Type} {original : Text → Option Text} {root : Text}

/-- A snapshot of the story: it is faithful, and it knows the characters of its script. -/
structure Snapshot.Genuine (original : Text → Option Text) (root : Text) (data : Snapshot τ) :
    Prop where
  faithful : data.Faithful
  knows : ∃ program, Reading original (Path.fromProject root data.script) program ∧
    ∀ c, .define c ∈ program.commands →
      c.ident ∈ data.characters.keys ∨ c.ident = unrecordedName

namespace Snapshot.Genuine

theorem mapTime {σ : Type} {data : Snapshot τ} (h : data.Genuine original root) (f : τ → σ) :
    (data.mapTime f).Genuine original root :=
  ⟨h.faithful.mapTime f, h.knows⟩

theorem reread {data found : Snapshot Float} (h : data.Genuine original root)
    (again : data.Reread found) : found.Genuine original root where
  faithful := h.faithful.reread again
  knows := by
    rw [again.script, again.characters h.faithful.characters]
    exact h.knows

end Snapshot.Genuine

/-- A game whose state, programs and files belong to the story of a project. -/
structure Game.Sound (original : Text → Option Text) (root : Text) (g : Game τ) : Prop where
  place : g.setup.root = root
  stocked : g.Stocked original
  regular : g.state.Regular
  introduced : g.state.Introduced g.program
  files : g.files.Saves original (Snapshot.Genuine original root)

namespace Game.Sound

variable {g t : Game τ}

/-- The empty state of a new game, with the characters of a program. -/
theorem regular_start {script : Text} {program : Program} (read : Reading original script program) :
    (({} : State τ).introduceAll program).Regular := by
  have empty : ({} : State τ).Regular :=
    { sprites := .empty, inventory := .empty, meters := .empty, characters := .empty
      spriteNames := .empty, characterNames := .empty, hud := .empty, hotspots := .empty
      single := by simp
      cursor := by simp
      line := .of_none rfl
      phone := fun _ _ => rfl }
  exact empty.introduceAll read.wellFormed (.inl rfl)

/-- A program of the project is taken up by a call, which is done only when nothing is said. -/
theorem regular_called (h : g.Sound original root) (free : g.state.Free) {resolved : Text}
    {edition : Edition} (shelved : g.library.shelf.get? (Path.absolute resolved) = some edition) :
    (g.state.introduceAll edition.program).Regular :=
  h.regular.introduceAll (h.stocked.shelf _ _ shelved).wellFormed (.inl free.dialogue)

variable [Clock τ]

/-- The snapshot of a sound game is one of the story. -/
theorem snapshot (h : g.Sound original root) : g.snapshot.Genuine original root where
  faithful := Snapshot.faithful_ofState h.regular _ _
  knows := by
    refine ⟨g.program, ?_, fun c mem => ?_⟩
    · have back : Path.fromProject root (Path.toProject root g.program.script) =
          g.program.script := by
        rw [Path.fromProject_toProject, ← h.stocked.program.script_eq]
      simp only [Game.snapshot, Snapshot.ofState, h.place, back]
      exact h.stocked.program
    · simp only [Game.snapshot, Snapshot.ofState]
      rw [h.regular.characters.recorded_eq, Table.mem_keys_erase]
      by_cases unrecorded : c.ident = unrecordedName
      · exact .inr unrecorded
      · exact .inl ⟨h.introduced c mem, unrecorded⟩

/-- The state that comes back from a snapshot of the story. -/
theorem regular_resumed (h : g.Sound original root) {data : Snapshot τ}
    (genuine : data.Genuine original root) {program : Program}
    (offers : g.Offers (Path.fromProject g.setup.root data.script) program) :
    ((data.toState g.now).introduceAll program).Regular := by
  have read := h.stocked.offered (Path.absolute_resolve g.setup.root _) offers
  -- The program is the one that was played when the snapshot was taken, so it brings no characters.
  have knows : (data.toState g.now).Knows program := by
    intro c mem
    obtain ⟨saved, readSaved, known⟩ := genuine.knows
    rw [← h.place] at readSaved
    obtain rfl := read.unique readSaved
    exact (known c mem).imp_left fun old => by simpa [Snapshot.toState] using old
  exact (genuine.faithful.regular g.now).introduceAll read.wellFormed (.inr knows)

end Game.Sound

variable [Clock τ]

/-- Every change keeps games sound. -/
theorem Game.Change.sound {given : Snapshot τ → Prop} {g t : Game τ}
    (noSaves : FileTree.NoSaves original)
    (handed : ∀ data, given data → data.Genuine original root) (change : Game.Change given g t)
    (h : g.Sound original root) : t.Sound original root := by
  have stocked := change.stocked h.stocked
  cases change with
  | state change =>
    exact
      { h with
        stocked
        regular := change.regular h.stocked.program.wellFormed h.regular
        introduced := fun c mem => change.mem_characters (h.introduced c mem) }
  | around | request | load | evict | clearLibrary => exact { h with stocked }
  | openVideo | lookVideo | closeVideo => exact { h with stocked, regular := { h.regular with } }
  | save path => exact { h with stocked, files := h.files.save (h.snapshot.mapTime _) path }
  | call mem free shelved found =>
    exact
      { h with
        stocked
        regular := { h.regular_called free shelved with }
        introduced := State.introduced_introduceAll _ _ }
  | stray mem free shelved =>
    exact
      { h with
        stocked
        regular := { h.regular_called free shelved with }
        introduced := State.introduced_introduceAll _ _ }
  | restart =>
    exact
      { h with
        stocked
        regular := Game.Sound.regular_start h.stocked.entry
        introduced := State.introduced_introduceAll _ _ }
  | @resume data program source offers =>
    have genuine : data.Genuine original root := by
      rcases source with own | ⟨path, saved, found, rfl⟩
      · exact handed data own
      · obtain ⟨written, good, again⟩ := h.files.load noSaves found
        exact (good.reread again).mapTime _
    exact
      { h with
        stocked
        regular := h.regular_resumed genuine offers
        introduced := State.introduced_introduceAll _ _ }

/-- However the scripts of a project are played, the state of the game comes back from its snapshot:
what is not saved is gone, moments keep their distance to the clock, and all else is as it was. On an
exact clock the state that came back has the same snapshot again. -/
theorem snapshot_undone {setup : Setup τ} {library : Library} {files : FileTree} {program : Program}
    (texts : files.Within original) (noSaves : FileTree.NoSaves original)
    (read : Reading original program.script program)
    (shelf : ∀ script edition, library.shelf.get? script = some edition →
      Reading original script edition.program)
    {kept : List (Snapshot τ)} {g : Game τ}
    (played : Played OwnSnapshots (Game.start setup library files program) kept g)
    (storable : g.state.Storable) (script : Text) (taken now : τ) :
    (Snapshot.ofState g.state script taken).toState now = g.state.rebased taken now ∧
      (Clock.Exact τ →
        Snapshot.ofState ((Snapshot.ofState g.state script taken).toState now) script now =
          Snapshot.ofState g.state script taken) := by
  have start : (Game.start setup library files program).Sound original setup.root :=
    { place := rfl
      stocked := .start texts.holds read shelf
      regular := Game.Sound.regular_start read
      introduced := State.introduced_introduceAll _ _
      files := texts.saves _ }
  have sound := (played.invariant start (fun g h => h.snapshot)
    (fun taken op own good data hands => good data (own data hands))
    fun given g t handed change => change.sound noSaves handed).1
  have back := Snapshot.toState_ofState sound.regular storable script taken now
  refine ⟨back, fun exact => ?_⟩
  rw [back]
  exact Snapshot.ofState_rebased exact g.state script taken now

/-- A script in which someone asks a question while a sprite fades away, and wants an answer in time. -/
def encounter : Text :=
  "character ann \x7b name \"Ann\"; color #ff8800; \x7d
   add rect box #fff 10 10; off box fade 10;
   ann \"Will you stay?\";
   ask \"Stay?\" timeout 5 default 1 \"Yes\" -> home \"No\" -> home;
   label home:"

/-- The game in which the question is asked. -/
def askedGame (program : Program) : Game Int :=
  (Operation.frame [] 250).after (gameIn (soloFiles encounter) program)

/-- The game in which an answer is awaited. -/
def choosingGame (program : Program) : Game Int :=
  (Operation.frame [.key .advance] 500).after (askedGame program)

/-- The line of a speaker comes back from a snapshot, and so does a choice in time, with the sprite that
is on its way out. The sprite began to fade and the choice was put to the player before the snapshot,
which is read back at another time. -/
theorem snapshot_undone_encounter :
    ∃ program reached,
      Program.ofFile (soloFiles encounter) false (.nth 0) "/game/main.vn" = .ok (program, reached) ∧
      (askedGame program).state.dialogue =
        some ⟨some "ann", some "Ann", some "#ff8800", "Will you stay?"⟩ ∧
      ((choosingGame program).state.choice.map fun c => (c.timeout, c.started)) =
        some (some 5000.0, 500) ∧
      ∀ g ∈ [askedGame program, choosingGame program],
        (g.state.sprites.values.map fun s => (s.leaving, s.transition.map (·.started))) =
          [(true, some 250)] ∧
        (Snapshot.ofState g.state "main.vn" 750).toState 2000 = g.state.rebased 750 2000 ∧
        Snapshot.ofState ((Snapshot.ofState g.state "main.vn" 750).toState 2000) "main.vn" 2000 =
          Snapshot.ofState g.state "main.vn" 750 := by
  obtain ⟨⟨program, reached⟩, found, form⟩ := exists_ok
    (x := Program.ofFile (soloFiles encounter) false (.nth 0) "/game/main.vn")
    (f := fun r =>
      decide ((askedGame r.1).state.dialogue =
          some ⟨some "ann", some "Ann", some "#ff8800", "Will you stay?"⟩ ∧
        ((choosingGame r.1).state.choice.map fun c => (c.timeout, c.started)) =
          some (some 5000.0, 500) ∧
        ∀ g ∈ [askedGame r.1, choosingGame r.1],
          (∀ names ∈ [g.state.sprites.keys, g.state.inventory.keys, g.state.meters.keys,
            g.state.characters.keys], unrecordedName ∉ names) ∧
          (∀ c ∈ g.state.choice, c.options.length < Ordinal.bound) ∧
          (g.state.sprites.values.map fun s => (s.leaving, s.transition.map (·.started))) =
            [(true, some 250)]))
    (b := true) (by decide +kernel)
  obtain ⟨spoken, choosing, both⟩ := of_decide_eq_true form
  have read : Reading (soloFiles encounter).text? "/game/main.vn" program :=
    Reading.ofFile (FileTree.within_text? _).holds found
  have noSaves : FileTree.NoSaves (soloFiles encounter).text? :=
    FileTree.noSaves_text? (by decide +kernel)
  have asked : Played OwnSnapshots (gameIn (soloFiles encounter) program) [] (askedGame program) :=
    .act .start (ownSnapshots_of_ne fun _ => nofun)
  have answered : Played OwnSnapshots (gameIn (soloFiles encounter) program) []
      (choosingGame program) :=
    .act asked (ownSnapshots_of_ne fun _ => nofun)
  refine ⟨program, reached, found, spoken, choosing, fun g mem => ?_⟩
  obtain ⟨recorded, counted, leaving⟩ := both g mem
  have storable : g.state.Storable :=
    ⟨recorded _ (by simp), recorded _ (by simp), recorded _ (by simp), recorded _ (by simp), counted⟩
  have played : Played OwnSnapshots (gameIn (soloFiles encounter) program) [] g := by
    rcases List.mem_pair.mp mem with rfl | rfl
    · exact asked
    · exact answered
  obtain ⟨back, again⟩ := snapshot_undone (FileTree.within_text? _) noSaves (read.own rfl)
    (fun _ _ found => by cases found) played storable "main.vn" 750 2000
  exact ⟨leaving, back, again Clock.exact_int⟩

end VisualNovel
