import VisualNovel.Player.Project
import VisualNovel.Proofs.Relay.Told

/-!
Playing in parts.

A tool need not keep a game between two decisions of the player: it can take a snapshot at every
boundary and go on from it later, in another game. `Game.live` takes decisions one after another in
one game, `Project.relay` takes each of them in a game that goes on from a snapshot of the one before.
Both come to the same boundaries and to the same failures (`relay_eq_live`), on a clock that counts
exactly, for projects whose calls lead to labels and whose choices leave time to decide. A story may
save and load on the way, each play in a tree of its own, as long as its scripts stay what they are.

Only the sprites may differ in the saves of the two plays: a movement that goes on in the one has ended
in the other. A save with a sprite that lacks a number is refused, so the loads of both plays must find
none (`Deed.LoadsMeasured`); that both refuse a file for another reason does no harm.
-/

namespace VisualNovel

variable {τ : Type} [Clock τ]

/-! ## 1. Plays -/

namespace Action

variable {α : Type}

/-- What an action gives, or how it fails. -/
def outcome (m : Action τ α) (g : Game τ) : Except Failure α :=
  match m g with
  | .ok a _ => .ok a
  | .error e _ => .error e

/-- The game that an action leaves, also when it fails. -/
def leaves (m : Action τ α) (g : Game τ) : Game τ :=
  match m g with
  | .ok _ t => t
  | .error _ t => t

omit [Clock τ] in
/-- Actions that end alike give the same, and leave related games. -/
theorem Together.ends {R : Game τ → Game τ → Prop} {m n : Action τ α} {g h : Game τ}
    (both : Together R m n g h) : m.outcome g = n.outcome h ∧ R (m.leaves g) (n.leaves h) := by
  unfold outcome leaves
  rcases both with ⟨a, g', h', left, right, related⟩ | ⟨e, g', h', left, right, related⟩
  · rw [left, right]
    exact ⟨rfl, related⟩
  · rw [left, right]
    exact ⟨rfl, related⟩

end Action

/-- Whether a game is where the player has to decide something, or at its end. -/
def Game.isAtBoundary (g : Game τ) : Bool :=
  g.status ∈ [Status.waitingChoice, .mapOverlay, .waitingInput, .ended]

/-- What decisions come to in one game. A failure that leaves the game in the middle of the story is
the last thing. -/
def Game.live : Game τ → List Decision → List (Except Failure Boundary)
  | _, [] => []
  | g, decision :: rest =>
    let t := decision.action.leaves g
    decision.action.outcome g :: if t.isAtBoundary then t.live rest else []

/-- The commands that are done on the way. -/
def Game.liveDeeds : Game τ → List Decision → List (Deed τ)
  | _, [] => []
  | g, decision :: rest =>
    let t := decision.action.leaves g
    decision.deeds g ++ if t.isAtBoundary then t.liveDeeds rest else []

/-- The commands that a new game does up to its first boundary. -/
def Game.firstDeeds (g : Game τ) : List (Deed τ) :=
  g.deeds commandLimit ++ Action.run.deedsAfter g

namespace Project

/-- A launch of a project on some clock. -/
def launchOn (τ : Type) (project : Project) (files : FileTree) : Launch τ :=
  { setup :=
      { root := project.root
        savePath := project.savePath
        assetRoot := project.root
        settings := project.settings.resolve
        features := project.features.resolve }
    files
    script := project.entry }

/-- The project is played from its beginning to the first boundary. -/
def begin (project : Project) (files : FileTree) : Launched τ Boundary :=
  (project.launchOn τ files).after do
    let _ ← Action.run
    Action.playToBoundary

/-- The project is played from a snapshot to the next boundary. -/
def goOn (project : Project) (files : FileTree) (data : Snapshot τ) : Launched τ Boundary :=
  (project.launchOn τ files).after do
    Action.resume data
    Action.playToBoundary

/-- On the clock of the processor this is how a project is started and resumed. -/
theorem launchOn_float (project : Project) (files : FileTree) :
    project.launchOn Float files = project.launch files := rfl

/-- What decisions come to, each of them in a game that goes on from a snapshot of the game before. -/
def relay (project : Project) : Game τ → List Decision → List (Except Failure Boundary)
  | _, [] => []
  | g, decision :: rest =>
    match project.goOn g.files g.snapshot with
    | .failed failure _ _ => [.error failure]
    | .done _ h =>
      let t := decision.action.leaves h
      decision.action.outcome h :: if t.isAtBoundary then project.relay t rest else []

/-- The commands that are done on the way. -/
def relayDeeds (project : Project) : Game τ → List Decision → List (Deed τ)
  | _, [] => []
  | g, decision :: rest =>
    match project.goOn g.files g.snapshot with
    | .failed _ _ _ => []
    | .done _ h =>
      let t := decision.action.leaves h
      decision.deeds h ++ if t.isAtBoundary then project.relayDeeds t rest else []

/-- The commands that are done up to the first boundary. -/
def firstDeeds (project : Project) (files : FileTree) : List (Deed τ) :=
  match (project.launchOn τ files).after get with
  | .failed _ _ _ => []
  | .done g _ => g.firstDeeds

end Project

/-! ## 2. New games -/

/-- A game that has just been launched on some files. -/
structure Game.Opens (setup : Setup τ) (tree : FileTree) (program : Program) (g : Game τ) : Prop where
  place : g.setup = setup
  plays : g.program = program
  begins : g.entry = program
  fresh : g.state = ({} : State τ).introduceAll program
  menu : g.menu = none ∨ g.menu = some { kind := .title }
  now : g.now = Clock.zero
  files : g.files = tree
  silent : g.voicePlaying = false
  player : g.setup.videoPlayer = none
  strict : g.library.strict = false
  shelf : ∀ script edition, g.library.shelf.get? script = some edition →
    script = program.script ∧ edition.program = program
  told : tree.Tells program.script program

/-- What comes of a launch by the action at its start. -/
def Launched.ofResult {α : Type} : EStateM.Result Failure (Game τ) α → Launched τ α
  | .ok value game => .done value game
  | .error failure game => .failed failure game.files game.logs.toList

/-- A tree that the games of a story come to from its files: they add saves of the story, and the
scripts stay. -/
structure FileTree.Later (files : FileTree) (setup : Setup τ) (tree : FileTree) : Prop where
  holds : tree.Holds files.text?
  genuine : tree.Saves files.text? (Snapshot.Genuine files.text? setup.root)
  orderly : tree.Saves files.text? Snapshot.Orderly
  kept : tree.Saves files.text? fun data => data.Faithful ∧ data.Kept
  steady : files.Steady setup.savePath tree
  saves : tree.Paired (files.SameText setup.root) tree

namespace Game.Opens

variable {setup : Setup τ} {tree files : FileTree} {program : Program} {g : Game τ}

/-- A new game has no program but the first one, so it is one of any story with this program. -/
theorem stocked_of (opens : g.Opens setup tree program) {original : Text → Option Text}
    (read : Reading original program.script program) (holds : tree.Holds original) :
    g.Stocked original where
  program := opens.plays ▸ read
  entry := opens.begins ▸ read
  shelf script edition found := by
    obtain ⟨rfl, same⟩ := opens.shelf script edition found
    exact same ▸ read
  files := opens.files ▸ holds

theorem stocked (opens : g.Opens setup tree program) : g.Stocked tree.text? :=
  opens.stocked_of (opens.told.reading.own (Path.absolute_absolute _)) tree.within_text?.holds

theorem supplied (opens : g.Opens setup tree program) (told : files.Tells program.script program)
    (retells : files.Retells tree) : g.Supplied files where
  strict := opens.strict
  shelf script edition found := by
    obtain ⟨rfl, same⟩ := opens.shelf script edition found
    exact same ▸ told
  program := opens.plays ▸ told
  reads := opens.files ▸ retells

/-- Behind its title menu a new game is quiet. -/
theorem quiet (opens : g.Opens setup tree program) (told : files.Tells program.script program)
    (later : files.Later setup tree) : ({ g with menu := none } : Game τ).Quiet files := by
  have supplied := opens.supplied told later.steady.retells
  obtain ⟨characters, same⟩ := ({} : State τ).introduceAll_frame program
  have fresh := opens.fresh.trans same
  exact
    { menu := rfl
      silent := opens.silent
      player := opens.player
      strict := supplied.strict
      shelf := supplied.shelf
      program := supplied.program
      steady := by rw [opens.place, opens.files]; exact later.steady
      saves := by rw [opens.place, opens.files]; exact later.saves
      video := by rw [fresh]
      wait := by simp [fresh]
      choice := by simp [fresh] }

/-- A new game is one of the story. -/
theorem game_told (relayed : files.Relayed τ) (opens : g.Opens setup tree program)
    (told : files.Tells program.script program) (later : files.Later setup tree) :
    g.Told files setup := by
  have read : Reading files.text? program.script program :=
    told.reading.own (Path.absolute_absolute _)
  have stocked := opens.stocked_of read later.holds
  refine
    { place := opens.place
      sound :=
        { place := by rw [opens.place]
          stocked
          regular := ?_
          introduced := ?_
          files := opens.files ▸ later.genuine }
      inside := ⟨stocked, ?_⟩
      orderly := ⟨?_, opens.files ▸ later.orderly⟩
      kept := ?_
      saves := opens.files ▸ later.kept }
  · rw [opens.fresh]
    exact Game.Sound.regular_start read
  · rw [opens.fresh, opens.plays]
    exact State.introduced_introduceAll _ _
  · rw [opens.fresh]
    exact State.inside_start _ _
  · rw [opens.fresh]
    exact State.orderly_start _
  · rw [opens.fresh]
    exact State.kept_start (relayed.recorded _ _ read)

end Game.Opens

namespace Project

variable {project : Project} {files : FileTree} {program : Program}

omit [Clock τ] in
/-- What a launch reads. -/
theorem program_launchOn :
    (project.launchOn τ files).program =
      ((({} : Library).load files project.entry).result.map fun edition =>
        (edition.program, (({} : Library).load files project.entry).library),
        (({} : Library).load files project.entry).logs) := rfl

/-- A project whose first script can be read gives a new game. -/
theorem after_launch (told : files.Tells project.entry program) :
    ∃ g : Game τ, g.Opens (project.launchOn τ files).setup files program ∧
      ∀ {α : Type} (action : Action τ α),
        (project.launchOn τ files).after action = .ofResult (action g) := by
  obtain ⟨reached, read⟩ := told.absolute
  have script : program.script = Path.absolute project.entry := told.reading.script_eq.trans (by simp)
  obtain ⟨library, logs, loaded, strict, shelf⟩ : ∃ library logs,
      ({} : Library).load files project.entry = ⟨.ok ⟨program, 0⟩, library, logs⟩ ∧
      library.strict = false ∧ ∀ script edition, library.shelf.get? script = some edition →
        script = program.script ∧ edition.program = program := by
    rw [Library.load]
    simp only [read]
    refine ⟨_, _, rfl, rfl, fun other edition found => ?_⟩
    simp only [Table.get?_set] at found
    split at found
    · next same =>
      cases found
      exact ⟨same.trans script.symm, rfl⟩
    · cases found
  refine ⟨{ Game.start (project.launchOn τ files).setup library files program with
    logs := logs.toArray }, ?_, fun action => ?_⟩
  · refine
      { place := rfl, plays := rfl, begins := rfl, fresh := rfl, menu := ?_, now := rfl, files := rfl
        silent := rfl, player := rfl, strict, shelf := ?_, told := told.own }
    · by_cases enabled : (project.launchOn τ files).setup.settings.titleMenu.enabled = true
      · exact .inr (if_pos enabled)
      · exact .inl (if_neg enabled)
    · intro other edition found
      rcases Library.get?_remember found with old | ⟨same, new⟩
      · exact shelf other edition old
      · refine ⟨?_, new⟩
        rw [same, script, Path.absolute_absolute]
  · rw [Launch.after, program_launchOn, loaded]
    rfl

/-- A project whose first script cannot be read fails with that fault, and does nothing else. -/
theorem failed_or_tells (project : Project) (files : FileTree) {α : Type} (action : Action τ α) :
    (∃ fault logs, (project.launchOn τ files).after action = .failed (.fault fault) files logs) ∨
      ∃ program, files.Tells project.entry program := by
  cases read : Program.ofFile files false (.nth 0) (Path.absolute project.entry) with
  | error fault =>
    have loaded : (({} : Library).load files project.entry).result = .error fault := by
      rw [Library.load]
      simp only [read]
      rfl
    left
    rw [Launch.after, program_launchOn, loaded]
    exact ⟨_, _, rfl⟩
  | ok result =>
    refine .inr ⟨result.1, result.2, ?_⟩
    rw [Program.ofFile, Path.absolute_absolute] at read
    exact read

/-- A project that is played has a first script that can be read. -/
theorem tells_of_done {α : Type} {action : Action τ α} {a : α} {g : Game τ}
    (done : (project.launchOn τ files).after action = .done a g) :
    ∃ program, files.Tells project.entry program := by
  rcases project.failed_or_tells files action with ⟨fault, logs, failed⟩ | told
  · cases failed.symm.trans done
  · exact told

end Project

/-! ## 3. The first boundary -/

/-- The runner stops at boundaries. -/
theorem Action.boundary_of_playAtMost {limit : Nat} {now : τ} {said : List Text} {g t : Game τ}
    {b : Boundary} (h : playAtMost limit now said g = .ok b t) : t.isAtBoundary = true := by
  induction limit generalizing g now said with
  | zero => cases h
  | succ limit ih =>
    unfold playAtMost at h
    obtain ⟨status, u, framed, h⟩ := run_bind_eq_ok.mp h
    have said := status_of_frame framed
    obtain ⟨s, v, read, h⟩ := run_bind_eq_ok.mp h
    cases read
    have stops : ∀ {k : Boundary}, status ∈ [Status.waitingChoice, .mapOverlay, .waitingInput, .ended] →
        (pure k : Action τ Boundary) u = .ok b t → t.isAtBoundary = true := by
      rintro k boundary ⟨⟩
      rw [said] at boundary
      exact decide_eq_true boundary
    cases status with
    | titleMenu | pauseMenu | dialogue | phone =>
      obtain ⟨_, _, _, h⟩ := run_bind_eq_ok.mp h
      exact ih h
    | waitingTimer | waitingVoice | waitingVideo | running => exact ih h
    | waitingChoice | mapOverlay | waitingInput | ended => exact stops (by decide) h

theorem Action.boundary_of_playToBoundary {g t : Game τ} {b : Boundary}
    (h : playToBoundary g = .ok b t) : t.isAtBoundary = true := by
  unfold playToBoundary at h
  obtain ⟨k, u, read, h⟩ := run_bind_eq_ok.mp h
  exact boundary_of_playAtMost h

namespace Game

variable {files tree : FileTree} {setup : Setup τ} {program : Program} {g t : Game τ}

theorem Quiet.inStep (quiet : g.Quiet files) : g.InStep g g.now g.now where
  left c pending := (quiet.choice c pending).began
  right c pending := (quiet.choice c pending).began
  timers due due' timer timer' := by
    rw [timer] at timer'
    cases timer'
    rfl

/-- The title menu gives way to a new game, which is the one that it stood before. -/
theorem Opens.newGame (opens : g.Opens setup tree program) (menu : g.menu = some { kind := .title }) :
    Action.takeMenuAction "new_game" g = .ok () { g with menu := none } := by
  have closed : Action.closeVideo g = .ok () g := by
    have looked : Action.state g = .ok g.state g := rfl
    have video : g.state.video = none := by
      obtain ⟨characters, same⟩ := ({} : State τ).introduceAll_frame program
      rw [opens.fresh, same]
    rw [Action.closeVideo, run_bind_ok looked, video]
    rfl
  rw [Action.takeMenuAction_newGame menu, Action.restart, run_bind_ok closed, run_modify]
  have program : g.entry = g.program := opens.begins.trans opens.plays.symm
  have state : ({} : State τ).introduceAll g.entry = g.state := by
    rw [opens.fresh, opens.begins]
  rw [state, program]

/-- At the first frame there is nothing but the title menu. -/
theorem titleFrame (menu : g.menu = some { kind := .title }) :
    Action.frame [] g.now g = .ok .titleMenu g := by
  have status : g.status = .titleMenu := by
    rw [Game.status, menu]
    rfl
  rw [← status]
  exact Action.frame_of_overlaid (Action.checkTimeout_of_menu menu) (by rw [menu]; rfl)

section Begin

variable (ideal : Clock.Ideal τ) (relayed : files.Relayed τ)

include ideal relayed

/-- A game at its first boundary is quiet. -/
theorem Opens.quiet_of_play (opens : g.Opens setup tree program)
    (told : files.Tells program.script program) (later : files.Later setup tree) {b : Boundary}
    (done : (do let _ ← Action.run; Action.playToBoundary : Action τ Boundary) g = .ok b t)
    (measured : ∀ d ∈ g.firstDeeds, d.LoadsMeasured) : t.Quiet files := by
  have keep : ∀ g t : Game τ, Game.Change (fun _ => False) g t → g.Orderly files.text? →
      t.Orderly files.text? :=
    fun g t change => change.orderly relayed.noSaves fun _ given => given.elim
  have commands : ∀ script program, files.Tells script program →
      ∀ c ∈ program.commands, c.Relayed τ :=
    fun script program told => relayed.commands _ _ told.reading
  have orderly : g.Orderly files.text? := (opens.game_told relayed told later).orderly
  have quiet := opens.quiet told later
  have plays : ∀ {k : Game τ} {limit : Nat}, k.Quiet files → k.Orderly files.text? →
      (∀ d ∈ k.playDeeds limit k.now, d.LoadsMeasured) →
      Action.playAtMost limit k.now [] k = .ok b t → t.Quiet files := by
    intro k limit quiet orderly measured played
    have both := quiet.twin.playAtMost ideal relayed.noSaves commands orderly orderly quiet.inStep
      limit [] measured measured
    exact (both.of_ok played played).left
  obtain ⟨status, u, ran, played⟩ := run_bind_eq_ok.mp done
  simp only [firstDeeds, Action.deedsAfter, ran, List.forall_mem_append] at measured
  obtain ⟨first, measured⟩ := measured
  unfold Action.playToBoundary at played
  obtain ⟨k, v, read, played⟩ := run_bind_eq_ok.mp played
  cases read
  unfold Action.run at ran
  rcases opens.menu with none | title
  · have quiet : g.Quiet files := { quiet with menu := none }
    generalize commandLimit = limit at ran first
    have both := quiet.twin.runAtMost ideal relayed.noSaves commands limit first first
    have next := ((Changes.runAtMost .refl limit).keeps keep orderly).of_ok ran
    exact plays (both.of_ok ran ran).left next measured played
  · obtain ⟨limit, more⟩ : ∃ limit, commandLimit = limit + 1 := ⟨9999, rfl⟩
    have waits : Action.status g = .ok .titleMenu g := by
      rw [Action.status, run_bind_ok (run_get g), Game.status, title]
      rfl
    rw [more, Action.runAtMost, run_bind_ok waits] at ran
    cases ran
    obtain ⟨frames, more⟩ : ∃ frames, runnerLimit = frames + 1 := ⟨99999, rfl⟩
    have looked : Action.state g = .ok g.state g := rfl
    rw [more, Action.playAtMost, run_bind_ok (titleFrame title), run_bind_ok looked] at played
    simp only at played
    rw [run_bind_ok (opens.newGame title)] at played
    rw [more] at measured
    have gone : Action.proceed g.now g.state .titleMenu g = .ok (some g.now) { g with menu := none } :=
      run_bind_ok (opens.newGame title)
    exact plays quiet { orderly with }
      (fun d mem => measured d (mem_playDeeds_later (titleFrame title) gone mem)) played

end Begin

/-! ## 4. Going on from a snapshot -/

/-- What a game of the story leaves of its files. -/
theorem Told.later (told : g.Told files setup) (quiet : g.Quiet files) :
    files.Later setup g.files where
  holds := told.sound.stocked.files
  genuine := told.sound.files
  orderly := told.orderly.files
  kept := told.saves
  steady := told.place ▸ quiet.steady
  saves := told.place ▸ quiet.saves

/-- At a boundary the story does not wait by itself. -/
theorem Quiet.wait_of_boundary (quiet : g.Quiet files) (orderly : g.state.Orderly)
    (boundary : g.isAtBoundary = true) : g.state.wait = none := by
  have place : g.status = Status.ofState g.state g.program.commands.size := by
    rw [Game.status, quiet.menu]
  have boundary : g.status ∈ [Status.waitingChoice, .mapOverlay, .waitingInput, .ended] :=
    of_decide_eq_true boundary
  rw [place] at boundary
  rcases Status.ofState_cases g.state g.program.commands.size with
    ⟨-, active⟩ | ⟨-, pending⟩ | ⟨-, asked⟩ | ⟨-, unread, -⟩ | ⟨wait, same, waits, -⟩ | ⟨-, waits, -⟩
  · exact orderly.wait_eq_none (.inl active)
  · exact orderly.wait_eq_none (.inr (.inl pending))
  · exact orderly.wait_eq_none (.inr (.inr (.inl asked)))
  · exact orderly.wait_eq_none (.inr (.inr (.inr unread)))
  · obtain ⟨due, rfl⟩ := quiet.wait wait waits
    rw [same] at boundary
    simp [Status.ofWait] at boundary
  · exact waits

/-- A game that goes on from the snapshot of another one, on its files, is its twin. -/
theorem Opens.resume (opens : t.Opens setup g.files program)
    (entry : files.Tells program.script program) (ideal : Clock.Ideal τ)
    (told : g.Told files setup) (quiet : g.Quiet files) (boundary : g.isAtBoundary = true) :
    ∃ h, Action.resume g.snapshot t = .ok () h ∧ g.Twin files h ∧ h.files = g.files := by
  have script : Path.fromProject t.setup.root g.snapshot.script = g.program.script := by
    rw [Game.snapshot, Snapshot.ofState, opens.place, told.place, Path.fromProject_toProject,
      ← told.sound.stocked.program.script_eq]
  have fresh := opens.quiet entry (told.later quiet)
  obtain ⟨library, logs, found, stocked⟩ :=
    (opens.supplied entry quiet.steady.retells).savedProgram quiet.program
      told.sound.stocked.program.script_eq.symm
  obtain ⟨n, inside, place⟩ := told.inside.next
  have reached : g.snapshot.index.exceeds g.program.commands.size = false := by
    simp only [Game.snapshot, Snapshot.ofState, place, Ordinal.exceeds]
    exact decide_eq_false (Nat.not_lt.mpr inside)
  obtain ⟨requests, resumed⟩ : ∃ requests,
      Action.resumeFrom g.snapshot g.program { t with library, logs } =
        .ok () { t with
          library, logs, requests, program := g.program
          state := (g.snapshot.toState t.now).introduceAll g.program } :=
    ⟨_, Action.resumeFrom_eq _ _ _⟩
  have back := Snapshot.twin_toState told.sound.regular told.kept
    (Path.toProject g.setup.root g.program.script) g.now t.now
  have introduced : (g.snapshot.toState t.now).introduceAll g.program = g.snapshot.toState t.now := by
    refine State.introduceAll_of_introduced fun c mem => ?_
    rw [Game.snapshot, ← back.characters]
    exact told.sound.introduced c mem
  have waits : (g.snapshot.toState t.now).wait = none := by
    have same : g.state.wait.isSome = (g.snapshot.toState t.now).wait.isSome := back.wait
    rw [quiet.wait_of_boundary told.orderly.state boundary] at same
    simpa using same
  rw [introduced] at resumed
  have restored : Action.restore g.snapshot t =
      .ok true { t with
        library, logs, requests, program := g.program, state := g.snapshot.toState t.now } := by
    rw [Action.restore, run_bind_ok (run_get t), script, run_bind_ok found]
    simp only [reached]
    exact run_bind_ok resumed
  refine ⟨{ t with
    library, logs, requests, program := g.program, state := g.snapshot.toState t.now, menu := none },
    ?_, ?_, opens.files⟩
  · rw [Action.resume, run_bind_ok restored]
    rfl
  · exact
      { setup := told.place.trans opens.place.symm
        program := rfl
        state := back
        trees := by rw [opens.files]; exact quiet.saves
        left := quiet
        right :=
          { fresh with
            strict := stocked.strict
            shelf := stocked.shelf
            program := quiet.program
            video := rfl
            wait := by simp [waits]
            choice := Snapshot.fresh_toState ideal quiet.choice _ t.now } }

/-- A frame leaves a game at its boundary. -/
theorem Quiet.restFrame (quiet : g.Quiet files) (waits : g.state.wait = none)
    (boundary : g.isAtBoundary = true) :
    ∃ t, Action.frame [] g.now g = .ok g.status t ∧ g.Twin files t ∧ t.files = g.files := by
  have framed : Action.frame [] g.now g = _ := Action.frame_of_events quiet.checkTimeout
  rw [framed]
  by_cases overlaid : (g.menu.isSome || g.state.isOverlaid) = true
  · rw [if_pos overlaid]
    exact ⟨g, rfl, quiet.twin, rfl⟩
  · obtain ⟨sprites, tracks, notification, blend, passed⟩ := quiet.passTime
    have twin : g.Twin files { g with state := { g.state with
        sprites, tracks, notification, blend, wait := g.state.wait.filter (!·.isOver g.now) } } :=
      { quiet.twin with
        state := { State.Twin.refl g.state with wait := by rw [waits]; rfl }
        right := quiet.passed }
    rw [if_neg overlaid, run_bind_ok passed]
    refine ⟨_, ?_, twin, rfl⟩
    obtain ⟨limit, more⟩ : ∃ limit, commandLimit = limit + 1 := ⟨9999, rfl⟩
    have stops : g.status ≠ .running := by
      intro running
      rw [isAtBoundary, running] at boundary
      cases boundary
    have looked : ∀ k : Game τ, Action.status k = .ok k.status k := fun _ => rfl
    rw [Action.run, more, Action.runAtMost, run_bind_ok (looked _), ← twin.status, if_pos stops]
    rfl

/-- A game at a boundary stays there. -/
theorem Quiet.rest (quiet : g.Quiet files) (waits : g.state.wait = none)
    (boundary : g.isAtBoundary = true) :
    ∃ b t, Action.playToBoundary g = .ok b t ∧ g.Twin files t ∧ t.files = g.files := by
  obtain ⟨t, framed, twin⟩ := quiet.restFrame waits boundary
  obtain ⟨frames, more⟩ : ∃ frames, runnerLimit = frames + 1 := ⟨99999, rfl⟩
  have looked : Action.state t = .ok t.state t := rfl
  rw [Action.playToBoundary, run_bind_ok (run_get g), more, Action.playAtMost, run_bind_ok framed,
    run_bind_ok looked]
  have boundary : g.status ∈ [Status.waitingChoice, .mapOverlay, .waitingInput, .ended] :=
    of_decide_eq_true boundary
  simp only [List.mem_cons, List.not_mem_nil, or_false] at boundary
  rcases boundary with same | same | same | same
  all_goals
    rw [same]
    exact ⟨_, t, rfl, twin⟩

/-- A twin on the same files is a twin of the twins of the game. -/
theorem Twin.trans {h k : Game τ} (first : g.Twin files h) (second : h.Twin files k)
    (same : k.files = h.files) : g.Twin files k where
  setup := first.setup.trans second.setup
  program := first.program.trans second.program
  state := first.state.trans second.state
  trees := same ▸ first.trees
  left := first.left
  right := second.right

end Game

theorem Game.Changes.resume {given : Snapshot τ → Prop} {g₀ g : Game τ} (h : g₀.Changes given g)
    {data : Snapshot τ} (source : given data) : Action.Follows given g₀ (Action.resume data) g := by
  unfold Action.resume
  refine (h.restore (.inl source)).bind fun done t h => ?_
  exact .ite (fun _ => h.setMenu _) fun _ => h.fail nofun

/-- A project whose story can be told in parts: what it saves leaves its scripts alone. -/
structure Project.Relayed (τ : Type) [Clock τ] (project : Project) (files : FileTree) : Prop
    extends files.Relayed τ where
  steady : files.Steady project.savePath files

/-- The files of a project, before anything is saved. -/
theorem Project.Relayed.later {project : Project} {files : FileTree}
    (relayed : project.Relayed τ files) : files.Later (project.launchOn τ files).setup files where
  holds := files.within_text?.holds
  genuine := files.within_text?.saves _
  orderly := files.within_text?.saves _
  kept := files.within_text?.saves _
  steady := relayed.steady
  saves := files.paired_self _

/-- A decision can be taken in a game that goes on from a snapshot: there is such a game, it is a twin
of the one that the snapshot was taken of, and it is one of the story. -/
theorem Project.goOn_twin (ideal : Clock.Ideal τ) {project : Project} {files : FileTree}
    (relayed : files.Relayed τ) {program : Program} (entry : files.Tells project.entry program)
    {g : Game τ} (told : g.Told files (project.launchOn τ files).setup) (quiet : g.Quiet files)
    (boundary : g.isAtBoundary = true) :
    ∃ b h, project.goOn g.files g.snapshot = .done b h ∧ g.Twin files h ∧ h.files = g.files ∧
      h.Told files (project.launchOn τ files).setup := by
  obtain ⟨t, opens, launched⟩ := after_launch (τ := τ) (quiet.steady.retells.tells entry)
  obtain ⟨u, resumed, twin, kept⟩ := opens.resume entry.own ideal told quiet boundary
  have waits : u.state.wait = none := by
    rcases twin.wait_cases with ⟨-, waits⟩ | ⟨due, _, waits, -⟩
    · exact waits
    · rw [quiet.wait_of_boundary told.orderly.state boundary] at waits
      cases waits
  have stands : u.isAtBoundary = true := by
    rw [Game.isAtBoundary, ← twin.status]
    exact boundary
  obtain ⟨b, h, played, same, kept'⟩ := twin.right.rest waits stands
  have run : (do Action.resume g.snapshot; Action.playToBoundary : Action τ Boundary) t = .ok b h := by
    rw [run_bind_ok resumed]
    exact played
  refine ⟨b, h, ?_, twin.trans same kept', kept'.trans kept, ?_⟩
  · rw [goOn, launched, run]
    rfl
  · have start : t.Changes (· = g.snapshot) t := .refl
    have follows : Action.Follows (· = g.snapshot) t
        (do Action.resume g.snapshot; Action.playToBoundary) t :=
      (start.resume rfl).bind fun _ _ chain => chain.playToBoundary
    have handed : ∀ data : Snapshot τ, data = g.snapshot →
        data.Told files (project.launchOn τ files).setup.root := by
      rintro data rfl
      exact told.snapshot
    exact (follows.keeps (fun _ _ change => change.told relayed handed)
      (opens.game_told relayed entry.own (told.later quiet))).of_ok run

/-! ## 5. Relays -/

section Relay

variable (ideal : Clock.Ideal τ) {project : Project} {files : FileTree}

include ideal

/-- Twins come to the same by the same decisions, one of them in one game and the other one in parts. -/
theorem Game.Twin.relay (relayed : files.Relayed τ) {program : Program}
    (entry : files.Tells project.entry program) {g h : Game τ} (twin : g.Twin files h)
    (told : g.Told files (project.launchOn τ files).setup)
    (told' : h.Told files (project.launchOn τ files).setup) (boundary : h.isAtBoundary = true)
    (decisions : List Decision) (measured : ∀ d ∈ g.liveDeeds decisions, d.LoadsMeasured)
    (measured' : ∀ d ∈ project.relayDeeds h decisions, d.LoadsMeasured) :
    project.relay h decisions = g.live decisions := by
  induction decisions generalizing g h with
  | nil => rfl
  | cons decision rest ih =>
    obtain ⟨b, k, gone, next, kept, told''⟩ :=
      project.goOn_twin ideal relayed entry told' twin.right boundary
    have commands : ∀ script program, files.Tells script program →
        ∀ c ∈ program.commands, c.Relayed τ :=
      fun script program told => relayed.commands _ _ told.reading
    have keep : ∀ g t : Game τ, Game.Change (fun _ => False) g t →
        g.Told files (project.launchOn τ files).setup →
        t.Told files (project.launchOn τ files).setup :=
      fun _ _ change => change.told relayed fun _ given => given.elim
    simp only [Game.liveDeeds, List.forall_mem_append] at measured
    simp only [Project.relayDeeds, gone, List.forall_mem_append] at measured'
    have both := (twin.trans next kept).decide ideal relayed.noSaves commands told.orderly
      told''.orderly decision measured.1 measured'.1
    obtain ⟨outcome, twin, told, told'⟩ :=
      (both.keeping ((Game.Changes.decide .refl decision).keeps keep told)
        ((Game.Changes.decide .refl decision).keeps keep told'')).ends
    rw [Project.relay, gone, Game.live]
    simp only [outcome]
    have same : (decision.action.leaves g).isAtBoundary = (decision.action.leaves k).isAtBoundary := by
      rw [Game.isAtBoundary, twin.status, ← Game.isAtBoundary]
    rw [same] at measured ⊢
    by_cases boundary : (decision.action.leaves k).isAtBoundary = true
    · rw [if_pos boundary] at measured measured'
      rw [if_pos boundary, if_pos boundary, ih twin told told' boundary measured.2 measured'.2]
    · rw [if_neg boundary, if_neg boundary]

end Relay

/-- Playing through snapshots is playing. From the first boundary on, decisions that are each taken in
a game that goes on from a snapshot of the game before come to the same boundaries and failures as
decisions that are taken one after another in one game. In the saves that are loaded on the way, the
sprites have the numbers that they need. -/
theorem relay_eq_live (ideal : Clock.Ideal τ) {project : Project} {files : FileTree}
    (relayed : project.Relayed τ files) {b : Boundary} {g : Game τ}
    (begun : project.begin files = .done b g) (decisions : List Decision)
    (first : ∀ d ∈ project.firstDeeds (τ := τ) files, d.LoadsMeasured)
    (live : ∀ d ∈ g.liveDeeds decisions, d.LoadsMeasured)
    (parts : ∀ d ∈ project.relayDeeds g decisions, d.LoadsMeasured) :
    project.relay g decisions = g.live decisions := by
  obtain ⟨program, entry⟩ := Project.tells_of_done begun
  obtain ⟨t, opens, launched⟩ := Project.after_launch (τ := τ) entry
  rw [Project.begin, launched] at begun
  have opened : (project.launchOn τ files).after get = .done t t := launched get
  rw [Project.firstDeeds, opened] at first
  cases result : (do let _ ← Action.run; Action.playToBoundary : Action τ Boundary) t with
  | error e u =>
    rw [result] at begun
    cases begun
  | ok a u =>
    rw [result] at begun
    cases begun
    have files := relayed.toRelayed
    have quiet := opens.quiet_of_play ideal files entry.own relayed.later result first
    have follows : Action.Follows (fun _ => False) t
        (do let _ ← Action.run; Action.playToBoundary) t :=
      (Game.Changes.run .refl).bind fun _ _ chain => chain.playToBoundary
    have told := (follows.keeps (fun _ _ change => change.told files fun _ given => given.elim)
      (opens.game_told files entry.own relayed.later)).of_ok result
    obtain ⟨_, _, _, played⟩ := run_bind_eq_ok.mp result
    exact quiet.twin.relay ideal files entry told told (Action.boundary_of_playToBoundary played)
      decisions live parts

/-- What a launch that is done gives, seen through a function. -/
def Launched.view {α β : Type} (f : α → Game τ → β) : Launched τ α → Option β
  | .done a g => some (f a g)
  | .failed _ _ _ => none

omit [Clock τ] in
/-- A launch that can be seen to be done. -/
theorem Launched.exists_done {α β : Type} {f : α → Game τ → β} {x : Launched τ α} {b : β}
    (h : x.view f = some b) : ∃ a g, x = .done a g ∧ f a g = b := by
  cases x with
  | done a g => exact ⟨a, g, rfl, Option.some.inj h⟩
  | failed failure files logs => cases h

/-- A project in the directory of the files to look at. -/
def gameProject : Project :=
  { root := "/game", title := "Game", entry := "/game/main.vn", savePath := "/game/quick.json" }

/-- A story that saves on the one way, while a box is moving, and loads on the other one. -/
def keepSource : Text :=
  "add rect box #fff 10 10; animate box move 100 0 8;
    label fork: ask \"Where to?\" timeout 5 default 1 \"On\" -> on \"Back\" -> back;
    label on: wait 2; save; goto fork; label back: load;"

/-- Its commands. -/
def keepCommands : Array Command :=
  #[.show { kind := .rect, name := "box", value := "#fff", size := some ⟨10.0, 10.0⟩ },
    .animate "box" (.move ⟨100.0, 0.0⟩) 8.0 .linear, .label "fork",
    .choice "Where to?" [⟨"On", "on"⟩, ⟨"Back", "back"⟩] (some 5.0) (some (.nth 1)),
    .label "on", .wait 2.0, .save none, .jump "fork", .label "back", .load none]

theorem tells_keep :
    ∃ program, (soloFiles keepSource).Tells "/game/main.vn" program ∧
      program.commands = keepCommands := by
  obtain ⟨⟨program, reached⟩, found, form⟩ := exists_ok
    (x := Program.ofFile (soloFiles keepSource) false (.nth 0) "/game/main.vn")
    (f := fun r => r.1.commands) (b := keepCommands) (by decide +kernel)
  exact ⟨program, ⟨reached, found⟩, form⟩

/-- All that can be read of its files is the one script. -/
theorem commands_of_keep {script : Text} {program : Program}
    (h : Reading (soloFiles keepSource).text? script program) : program.commands = keepCommands := by
  obtain ⟨main, told, form⟩ := tells_keep
  obtain rfl := script_of_solo h
  rw [h.unique told.reading, form]

theorem relayed_keep : (soloFiles keepSource).Relayed Int where
  noSaves := FileTree.noSaves_text? (by decide +kernel)
  lands := by
    intro script program reading path resolved label mem
    simp [commands_of_keep reading, keepCommands] at mem
  countable := by
    intro script program reading
    rw [commands_of_keep reading]
    decide
  commands := by
    intro script program reading c mem
    simp only [commands_of_keep reading, keepCommands, List.mem_toArray, List.mem_cons,
      List.not_mem_nil, or_false] at mem
    rcases mem with rfl | rfl | rfl | rfl | rfl | rfl | rfl | rfl | rfl | rfl
    -- The choice is the one command with a time of its own.
    case inr.inr.inr.inl =>
      rintro seconds ⟨⟩
      decide +kernel
    all_goals trivial
  recorded := by
    intro script program reading
    constructor
    · rintro ⟨c, mem, named⟩
      simp only [commands_of_keep reading, keepCommands, List.mem_toArray, List.mem_cons,
        List.not_mem_nil, or_false] at mem
      rcases mem with rfl | rfl | rfl | rfl | rfl | rfl | rfl | rfl | rfl | rfl <;> cases named
    · intro c mem
      simp [commands_of_keep reading, keepCommands] at mem

/-- It has no slots and no other scripts, and no file stands where its quick save goes. -/
theorem steady_keep :
    (soloFiles keepSource).Steady gameProject.savePath (soloFiles keepSource) := by
  refine FileTree.steady_of_apart ?_ ?_
  · rintro place ⟨slot, named, touched⟩
    cases named with
    | quick =>
      have quick : ∀ place ∈ savePlaces gameProject.savePath,
          (soloFiles keepSource).text? place = none := by decide +kernel
      exact quick place touched
    | slot read mem => simp [commands_of_keep read, keepCommands] at mem
  · intro script named
    cases named with
    | told told => exact ⟨_, told.absolute⟩
    | called read mem => simp [commands_of_keep read, keepCommands] at mem

/-- The first decision saves, and the second one goes back to what was saved. In the one game the box has
come some way then. In the parts it stands still, as a movement ends at a snapshot, so that the save is
another one. -/
theorem relay_eq_live_back :
    ∃ (b : Boundary) (g : Game Int), gameProject.begin (soloFiles keepSource) = .done b g ∧
      gameProject.relay g [.choose (.nth 0), .choose (.nth 1)] =
        g.live [.choose (.nth 0), .choose (.nth 1)] := by
  obtain ⟨b, g, begun, reads⟩ := Launched.exists_done
    (x := gameProject.begin (τ := Int) (soloFiles keepSource))
    (f := fun _ g => decide
      ((∀ d ∈ gameProject.firstDeeds (τ := Int) (soloFiles keepSource), d.readsSprites = true) ∧
        (∀ d ∈ g.liveDeeds [.choose (.nth 0), .choose (.nth 1)], d.readsSprites = true) ∧
          ∀ d ∈ gameProject.relayDeeds g [.choose (.nth 0), .choose (.nth 1)], d.readsSprites = true))
    (b := true) (by decide +kernel)
  obtain ⟨first, live, parts⟩ := of_decide_eq_true reads
  exact ⟨b, g, begun, relay_eq_live Clock.ideal_int ⟨relayed_keep, steady_keep⟩ begun _
    (fun d mem => d.loadsMeasured_of_reads (first d mem))
    (fun d mem => d.loadsMeasured_of_reads (live d mem))
    fun d mem => d.loadsMeasured_of_reads (parts d mem)⟩

/-- A call to no label leaves a game that does not come back from its snapshot: the one game says that
there is nothing to decide, and the other one is never there. -/
theorem relay_ne_live_astray :
    ∃ (b : Boundary) (g : Game Int), gameProject.begin strayFiles = .done b g ∧
      gameProject.relay g [.choose (.nth 0)] ≠ g.live [.choose (.nth 0)] := by
  obtain ⟨b, g, begun, differs⟩ := Launched.exists_done
    (f := fun _ g => decide (gameProject.relay g [.choose (.nth 0)] ≠ g.live [.choose (.nth 0)]))
    (x := gameProject.begin (τ := Int) strayFiles) (b := true) (by decide +kernel)
  exact ⟨b, g, begun, of_decide_eq_true differs⟩

end VisualNovel
