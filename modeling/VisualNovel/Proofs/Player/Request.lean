import VisualNovel.Player.Agent
import VisualNovel.Proofs.Engine.Files
import VisualNovel.Proofs.Engine.Saving
import VisualNovel.Proofs.Json.RoundTrip
import VisualNovel.Proofs.Player.Screen

/-!
A request that fails loses nothing.

A step of the agent begins a story or goes on from a state file, and writes a state file at the next
boundary. It can fail anywhere on the way, and what the story saved until then stays saved. But the
state files are written last of all, beside their places first, so a step that fails has changed no
file but saves of the project and what stands beside the state file; and the state file of a step
that succeeds is read again as a state of the same project (`Agent.step_loses_nothing`).
-/

namespace VisualNovel

/-! ## 1. Files that are replaced -/

/-- A state file that cannot be written is not touched. -/
theorem PlayerState.sameBeyond_of_write_error {path : Text} {state : PlayerState} {w w' : World}
    {e : Failure} (failed : write path state w = .error e w') :
    w.files.SameBeyond [Path.absolute (besidePath path)] w'.files := by
  rw [write, Job.replaceFile, run_bind_ok (Job.run_files w)] at failed
  rcases replaced : w.files.replaceIn (Path.directory (Path.absolute path)) path
      state.toJson.compact with ⟨refused | ⟨⟩, after⟩
  · rw [replaced] at failed
    cases failed
    exact FileTree.sameBeyond_of_replaceIn_error replaced
  · rw [replaced] at failed
    cases failed

/-- The snapshot of a state that was read from a text. -/
theorem PlayerState.savable_of_ofJson {j : Json} (orderly : j.Orderly) {state : PlayerState}
    {data : Snapshot Float} (h : ofJson j = .ok (state, data)) : data.Savable := by
  unfold ofJson at h
  simp only at h
  split at h
  · cases h
  split at h
  · cases h
  split at h
  · cases h
  split at h
  · cases h
  next save found =>
  split at h
  · cases h
  next accepted =>
  cases h
  exact Snapshot.savable_of_ofJson? (orderly.field? found) accepted

/-- Reading a state file changes nothing, and gives a snapshot that can be saved. -/
theorem PlayerState.read_cases (path : Text) (w : World) :
    (∃ e, read path w = .error e w) ∨
      ∃ state data, read path w = .ok (state, data) w ∧ data.Savable := by
  rw [read, run_bind_ok (Job.run_files w)]
  by_cases there : w.files.pathExists path = true
  · simp only [there]
    cases parsed : (w.files.read path).toOption.bind Json.parse? with
    | none => exact .inl ⟨_, rfl⟩
    | some j =>
      cases accepted : ofJson j with
      | error problem => exact .inl ⟨_, by simp only [accepted]; rfl⟩
      | ok found =>
        obtain ⟨text, -, known⟩ := Option.bind_eq_some_iff.mp parsed
        refine .inr ⟨found.1, found.2, by simp only [accepted]; rfl, ?_⟩
        exact savable_of_ofJson (Json.orderly_of_parse? known) accepted
  · simp only [there]
    exact .inl ⟨_, rfl⟩

/-! ## 2. Games of a project -/

theorem Reading.parsed {original : Text → Option Text} {script : Text} {program : Program}
    (h : Reading original script program) : program.Parsed := by
  obtain ⟨files, strict, text, reached, -, -, read⟩ := h
  exact ⟨files, strict, _, script, text, reached, read⟩

/-- A game of a project, over the files of a world: its programs are those that the project had at
first, and its state can be saved. -/
structure Project.Plays (project : Project) (original : Text → Option Text) (g : Game Float)
    (w : World) : Prop where
  savePath : g.setup.savePath = project.savePath
  files : w.files = g.files
  stocked : g.Stocked original
  savable : g.Savable

/-- A launched game can be saved. -/
theorem Game.Opens.savable {setup : Setup Float} {files : FileTree} {program : Program}
    {g : Game Float} (opens : g.Opens setup files program) : g.Savable where
  program := opens.stocked.program.parsed
  entry := opens.stocked.entry.parsed
  library script edition found := (opens.stocked.shelf script edition found).parsed
  state := by
    rw [opens.fresh, ← opens.plays]
    exact State.savable_empty.introduceAll opens.stocked.program.parsed.wellFormed

namespace Job

variable {α : Type} {original : Text → Option Text}

/-- An action on the games of a project that can be saved: it leads to such a game, and writes at most
the saves of the project, also where it fails. -/
def Playing (original : Text → Option Text) (action : Action Float α) : Prop :=
  ∀ g : Game Float, g.Stocked original → g.Savable →
    Action.Keeps (fun t => (g.Spared original t ∧ t.Stocked original) ∧ t.Savable) (fun _ => True)
      action g

theorem playing_of_follows {given : Snapshot Float → Prop} {action : Action Float α}
    (handed : ∀ data, given data → data.Savable)
    (follows : ∀ g : Game Float, Action.Follows given g action g)
    (sparing : ∀ g : Game Float, g.Stocked original → action.Sparing original g) :
    Playing original action := fun g stocked savable =>
  ((sparing g stocked).and
    ((follows g).keeps (fun _ _ change => change.savable handed) savable)).mono (fun _ => id)
    fun _ _ => trivial

theorem playing_begin :
    Playing original (do let _ ← Action.run; Action.playToBoundary : Action Float Boundary) :=
  playing_of_follows (fun _ (given : False) => given.elim)
    (fun _ => (Game.Changes.run .refl).bind fun _ _ chain => chain.playToBoundary)
    fun _ => Action.sparing_begin

theorem playing_resume {data : Snapshot Float} (savable : data.Savable) :
    Playing original (do Action.resume data; Action.playToBoundary : Action Float Boundary) :=
  playing_of_follows (fun other (given : other = data) => given ▸ savable)
    (fun g =>
      have start : g.Changes (· = data) g := .refl
      (start.resume rfl).bind fun _ _ chain => chain.playToBoundary)
    fun _ => Action.sparing_resume data

theorem playing_decision (decision : Decision) : Playing original decision.action :=
  playing_of_follows (fun _ (given : False) => given.elim) (fun _ => Game.Changes.decide .refl decision)
    fun _ => Action.sparing_decision decision

/-- A launch of a project writes only saves of the project, and what comes of it is a game of the
project. -/
theorem ends_launch {project : Project} {action : Action Float α} {w : World}
    {launched : Launched Float α} (same : (project.launch w.files).after action = launched)
    (plays : Playing w.files.text? action) :
    Ends (launch launched) w
      (fun r t => w.files.Spares (SavePlace w.files.text? project.savePath) t.files ∧
        project.Plays w.files.text? r.2 t)
      (fun _ t => w.files.Spares (SavePlace w.files.text? project.savePath) t.files) := by
  rw [← Project.launchOn_float] at same
  rcases project.failed_or_tells w.files action with ⟨fault, logs, failed⟩ | ⟨program, told⟩
  · obtain rfl := same.symm.trans failed
    exact FileTree.Spares.refl _ _
  · obtain ⟨g, opens, after⟩ := Project.after_launch (τ := Float) told
    rw [← same, after]
    have place : g.setup.savePath = project.savePath := by rw [opens.place]; rfl
    have files : g.files = w.files := opens.files
    have ends := plays g opens.stocked opens.savable
    unfold Action.Keeps Ends at ends
    cases ran : action g with
    | ok value t =>
      rw [ran] at ends
      obtain ⟨⟨⟨setup, spared⟩, stocked⟩, savable⟩ := ends
      rw [place, files] at spared
      exact ⟨spared, setup ▸ place, rfl, { stocked with }, { savable with }⟩
    | error e t =>
      rw [ran] at ends
      obtain ⟨⟨⟨⟨-, spared⟩, -⟩, -⟩, -⟩ := ends
      rw [place, files] at spared
      exact spared

/-- So does an action of a game that plays already. -/
theorem ends_actOrFail {project : Project} {g : Game Float} {action : Action Float α} {w : World}
    (game : project.Plays original g w) (plays : Playing original action) :
    Ends (actOrFail g action) w
      (fun r t => w.files.Spares (SavePlace original project.savePath) t.files ∧
        project.Plays original r.2 t)
      (fun _ t => w.files.Spares (SavePlace original project.savePath) t.files) := by
  have same : on g w = g := by rw [on, game.files]
  have ends := plays g game.stocked game.savable
  unfold Action.Keeps Ends at ends
  unfold actOrFail Ends
  cases ran : action g with
  | ok value t =>
    rw [ran] at ends
    obtain ⟨⟨⟨setup, spared⟩, stocked⟩, savable⟩ := ends
    rw [game.savePath, ← game.files] at spared
    rw [run_bind_ok (act_of_ok (same.symm ▸ ran))]
    exact ⟨spared, setup ▸ game.savePath, rfl, { stocked with }, { savable with }⟩
  | error e t =>
    rw [ran] at ends
    obtain ⟨⟨⟨⟨-, spared⟩, -⟩, -⟩, -⟩ := ends
    rw [game.savePath, ← game.files] at spared
    rw [run_bind_ok (act_of_error (same.symm ▸ ran))]
    exact spared

end Job

/-! ## 3. Steps -/

theorem Flags.get?_of_need {flags : Flags} {name value : Text} (h : flags.need name = .ok value) :
    flags.get? name = some value := by
  unfold need at h
  split at h
  · next found =>
    cases h
    exact found
  · cases h

/-- A project is known by an absolute path. -/
theorem Project.root_ne_nil {files : FileTree} {directory : Text} {project : Project}
    (h : ofDirectory files directory = .ok project) : project.root ≠ [] := by
  unfold ofDirectory at h
  simp only at h
  split at h
  · cases h
  obtain ⟨config, -, h⟩ := except_bind_eq_ok.mp h
  obtain ⟨entry, -, h⟩ := except_bind_eq_ok.mp h
  split at h
  · cases h
  obtain ⟨title, -, h⟩ := except_bind_eq_ok.mp h
  obtain ⟨saves, -, h⟩ := except_bind_eq_ok.mp h
  obtain ⟨settings, -, h⟩ := except_bind_eq_ok.mp h
  obtain ⟨features, -, h⟩ := except_bind_eq_ok.mp h
  cases h
  simp [Path.absolute, Path.ofNames, Path.root, Text.ofString, Text.unitsOf]

theorem Project.root_ne_nil_of_load {files : FileTree} {source : ProjectSource} {project : Project}
    (h : load files source = .ok project) : project.root ≠ [] := by
  cases source with
  | directory path => exact root_ne_nil h
  | «example» id =>
    obtain ⟨root, -, h⟩ := except_bind_eq_ok.mp h
    simp only at h
    split at h
    · cases h
    · exact root_ne_nil h

namespace Agent

/-- The requests that play a step of a story. -/
inductive Step where
  | start
  | choose
  | input
  deriving DecidableEq, Repr

namespace Step

/-- The name of the request. -/
def word : Step → Text
  | start => "start"
  | choose => "choose"
  | input => "input"

/-- What the request does. -/
def job : Step → Flags → Job (List Text)
  | start => Agent.start
  | choose => Agent.choose
  | input => Agent.input

/-- The project of a step: the one that the flags select, or that of the state file. -/
def project (flags : Flags) : Step → Job Project
  | start => do
    let source ← checked (ProjectSource.select (flags.get? "project") (flags.get? "example"))
    checked (Project.load (← Job.files) source)
  | choose | input => do
    let found ← PlayerState.read (← checked (flags.need "state-in"))
    checked (Project.ofDirectory (← Job.files) found.1.project)

/-- A decision in the story of the state file. -/
def decide (flags : Flags) (decision : Decision) : Job (Project × Boundary × Game Float) := do
  let (project, game) ← resume flags
  let (b, game) ← Job.actOrFail game decision.action
  return (project, b, game)

/-- A step without its state file: the project, the boundary to which it is played, and the game
there. -/
def play (flags : Flags) : Step → Job (Project × Boundary × Game Float)
  | start => do
    let project ← start.project flags
    let (b, game) ← Job.launch (project.start (← Job.files))
    return (project, b, game)
  | choose => do
    let pick ← checked (flags.need "choice" >>= choiceOf)
    decide flags (.choose pick)
  | input => do
    let text ← checked (flags.need "text")
    decide flags (.answer text)

/-- The places that a step may write to before its state file is in its place: the one beside the
state file, and those of the saves of its project. -/
inductive Scratch (step : Step) (flags : Flags) (w : World) : Text → Prop
  | beside {out : Text} (named : flags.get? "state-out" = some out) :
      Scratch step flags w (Path.absolute (besidePath out))
  | save {p : Project} {place : Text} (plays : step.project flags w = .ok p w)
      (saves : SavePlace w.files.text? p.savePath place) : Scratch step flags w place

variable {α : Type} {step : Step} {flags : Flags} {w t : World}

theorem run_checked (a : α) : checked (.ok a) w = .ok a w := rfl

/-- A step plays to a boundary first, and writes its state file then. -/
theorem job_eq (step : Step) (flags : Flags) :
    step.job flags = (do
      let out ← checked (flags.need "state-out")
      let (project, b, game) ← step.play flags
      settle project game b out) := by
  cases step with
  | start => simp only [job, Agent.start, play, project, bind_assoc, pure_bind]
  | choose => simp only [job, Agent.choose, play, decide, bind_assoc, pure_bind]; rfl
  | input => simp only [job, Agent.input, play, decide, bind_assoc, pure_bind]; rfl

/-! ### Where a step ends -/

/-- A step that comes to a boundary: its game is one of its project. -/
structure Arrives (step : Step) (flags : Flags) (w : World) (p : Project) (g : Game Float)
    (t : World) : Prop where
  project : step.project flags w = .ok p w
  root : p.root ≠ []
  spared : w.files.Spares (step.Scratch flags w) t.files
  game : p.Plays w.files.text? g t

/-- A launch of the project of a step comes to a boundary, or writes only where the step may. -/
theorem ends_launch {action : Action Float α} {p : Project} {launched : Launched Float α}
    (plays : step.project flags w = .ok p w) (root : p.root ≠ [])
    (same : (p.launch w.files).after action = launched)
    (playing : Job.Playing w.files.text? action) :
    Ends (Job.launch launched) w (fun r t => step.Arrives flags w p r.2 t)
      (fun _ t => w.files.Spares (step.Scratch flags w) t.files) := by
  have scratch : ∀ {t : World}, w.files.Spares (SavePlace w.files.text? p.savePath) t.files →
      w.files.Spares (step.Scratch flags w) t.files :=
    fun saved => saved.mono fun _ saves => .save plays saves
  exact (Job.ends_launch same playing).mono
    (fun _ _ ⟨saved, game⟩ => ⟨plays, root, scratch saved, game⟩) fun _ _ => scratch

/-- A story goes on from a state file, and comes to a boundary. -/
theorem ends_resume (resumes : step ≠ .start) (flags : Flags) (w : World) :
    Ends (resume flags) w (fun r t => step.Arrives flags w r.1 r.2 t)
      (fun _ t => w.files.Spares (step.Scratch flags w) t.files) := by
  unfold resume
  cases needed : flags.need "state-in" with
  | error problem => exact FileTree.Spares.refl _ _
  | ok path =>
    rw [ends_bind_ok (run_checked path)]
    rcases PlayerState.read_cases path w with ⟨e, failed⟩ | ⟨state, data, read, savable⟩
    · rw [ends_bind_error failed]
      exact FileTree.Spares.refl _ _
    · rw [ends_bind_ok read, ends_bind_ok (Job.run_files w)]
      cases loaded : Project.ofDirectory w.files state.project with
      | error problem => exact FileTree.Spares.refl _ _
      | ok p =>
        rw [ends_bind_ok (run_checked p), ends_bind_ok (Job.run_files w)]
        have plays : step.project flags w = .ok p w := by
          cases step with
          | start => exact absurd rfl resumes
          | choose | input =>
            rw [project, needed, run_bind_ok (run_checked path), run_bind_ok read,
              run_bind_ok (Job.run_files w), loaded]
            rfl
        generalize same : p.resume w.files data = launched
        exact Ends.bind (ends_launch plays (Project.root_ne_nil loaded) same
          (Job.playing_resume savable)) fun _ _ arrives => arrives

theorem ends_decide (resumes : step ≠ .start) (flags : Flags) (w : World) (decision : Decision) :
    Ends (decide flags decision) w (fun r t => step.Arrives flags w r.1 r.2.2 t)
      (fun _ t => w.files.Spares (step.Scratch flags w) t.files) := by
  refine Ends.bind (ends_resume resumes flags w) fun (p, g) t arrives => ?_
  have later : ∀ {u : World}, t.files.Spares (SavePlace w.files.text? p.savePath) u.files →
      w.files.Spares (step.Scratch flags w) u.files :=
    fun saved => arrives.spared.trans (saved.mono fun _ saves => .save arrives.project saves)
  refine Ends.bind ((Job.ends_actOrFail arrives.game (Job.playing_decision decision)).mono
    (fun _ _ => id) fun _ _ => later) fun (b, g') u ⟨saved, game⟩ => ?_
  exact { arrives with spared := later saved, game }

theorem ends_start (flags : Flags) (w : World) :
    Ends (Step.start.play flags) w (fun r t => Step.start.Arrives flags w r.1 r.2.2 t)
      (fun _ t => w.files.Spares (Step.start.Scratch flags w) t.files) := by
  unfold play
  cases selected : ProjectSource.select (flags.get? "project") (flags.get? "example") with
  | error problem =>
    have refused : Step.start.project flags w = .error (.player problem) w := by
      rw [project, selected]
      rfl
    rw [ends_bind_error refused]
    exact FileTree.Spares.refl _ _
  | ok source =>
    have plays : Step.start.project flags w = checked (Project.load w.files source) w := by
      rw [project, selected, run_bind_ok (run_checked source), run_bind_ok (Job.run_files w)]
    cases loaded : Project.load w.files source with
    | error problem =>
      rw [loaded] at plays
      rw [ends_bind_error plays]
      exact FileTree.Spares.refl _ _
    | ok p =>
      rw [loaded, run_checked] at plays
      rw [ends_bind_ok plays, ends_bind_ok (Job.run_files w)]
      generalize same : p.start w.files = launched
      exact Ends.bind (ends_launch plays (Project.root_ne_nil_of_load loaded) same
        Job.playing_begin) fun _ _ arrives => arrives

/-- Until its boundary a step writes only saves of its project. -/
theorem ends_play (step : Step) (flags : Flags) (w : World) :
    Ends (step.play flags) w (fun r t => step.Arrives flags w r.1 r.2.2 t)
      (fun _ t => w.files.Spares (step.Scratch flags w) t.files) := by
  cases step with
  | start => exact ends_start flags w
  | choose =>
    unfold play
    cases picked : flags.need "choice" >>= choiceOf with
    | error problem => exact FileTree.Spares.refl _ _
    | ok pick =>
      rw [ends_bind_ok (run_checked pick)]
      exact ends_decide (by decide) flags w (.choose pick)
  | input =>
    unfold play
    cases answered : flags.need "text" with
    | error problem => exact FileTree.Spares.refl _ _
    | ok text =>
      rw [ends_bind_ok (run_checked text)]
      exact ends_decide (by decide) flags w (.answer text)

/-- What a step prints and leaves at a boundary: unless the story has ended there, a state file of the
project. -/
def Settled (p : Project) (g : Game Float) (b : Boundary) (out : Text) (lines : List Text)
    (after : World) : Prop :=
  (b.event = .ended → lines = boundaryLines b none) ∧
    (b.event ≠ .ended → lines = boundaryLines b (some out) ∧
      ∃ v, PlayerState.write out ⟨p.root, g.snapshot.toJson⟩ v = .ok () after)

/-- At a boundary nothing is written but the state file, and beside it. -/
theorem ends_settle {p : Project} {g : Game Float} (arrives : step.Arrives flags w p g t) {out : Text}
    (named : flags.get? "state-out" = some out) (b : Boundary) :
    Ends (settle p g b out) t (Settled p g b out)
      (fun _ after => w.files.Spares (step.Scratch flags w) after.files) := by
  unfold settle
  by_cases ended : b.event = .ended
  · rw [if_pos ended]
    exact ⟨fun _ => rfl, fun waits => absurd ended waits⟩
  · rw [if_neg ended]
    obtain ⟨v, acted, files⟩ : ∃ v, Job.actOrFail g Action.snapshot t =
        .ok (g.snapshot, { g with logs := #[] }) v ∧ v.files = t.files := by
      have taken : Action.snapshot (Job.on g t) = .ok g.snapshot g := by
        rw [Job.on, arrives.game.files]
        rfl
      have acted := Job.act_of_ok taken
      exact ⟨_, by rw [Job.actOrFail, run_bind_ok acted]; rfl, arrives.game.files.symm⟩
    rw [ends_bind_ok acted]
    simp only
    cases done : PlayerState.write out ⟨p.root, g.snapshot.toJson⟩ v with
    | ok value after =>
      rw [ends_bind_ok done]
      exact ⟨fun ends => absurd ends ended, fun _ => ⟨rfl, v, done⟩⟩
    | error e after =>
      rw [ends_bind_error done]
      have same := PlayerState.sameBeyond_of_write_error done
      rw [files] at same
      exact arrives.spared.trans (same.spares (by simpa using Scratch.beside named))

/-- A step comes to a boundary and settles there, or it fails and has written only where it may. -/
theorem ends_job (step : Step) (flags : Flags) (w : World) :
    Ends (step.job flags) w
      (fun lines after => ∃ out p b g v, flags.get? "state-out" = some out ∧
        step.play flags w = .ok (p, b, g) v ∧ step.Arrives flags w p g v ∧
        Settled p g b out lines after)
      (fun _ after => w.files.Spares (step.Scratch flags w) after.files) := by
  rw [job_eq]
  cases needed : flags.need "state-out" with
  | error problem => exact FileTree.Spares.refl _ _
  | ok out =>
    have named := Flags.get?_of_need needed
    rw [ends_bind_ok (run_checked out)]
    have played := step.ends_play flags w
    unfold Ends at played
    cases ran : step.play flags w with
    | error failure v =>
      rw [ran] at played
      rw [ends_bind_error ran]
      exact played
    | ok r v =>
      rw [ran] at played
      rw [ends_bind_ok ran]
      exact (ends_settle played named r.2.1).mono
        (fun lines after settled => ⟨out, r.1, r.2.1, r.2.2, v, named, rfl, played, settled⟩)
        fun _ _ => id

theorem request_eq (step : Step) (arguments : List Text) :
    request (step.word :: arguments) = checked (Flags.read arguments) >>= step.job := by
  cases step <;> rfl

end Step

/-- A step that fails loses nothing, and a step that succeeds can be gone on from.

A step that ends with exit code one has changed no file, whatever it did before it failed, but at the
places where it writes on its way: beside the new state file, and the saves of the project with the
places beside them. So the state file that it goes on from and the one that it should write, which may
be the same file, hold what they held before unless they are at such places. A step that ends with exit
code zero has come to a boundary. Unless the story has ended there, it names a state file that it has
written for its project; if all numbers in the state are finite, this file is read as a state of the
same project, with the same snapshot up to the signs of zeros. -/
theorem step_loses_nothing {step : Step} {arguments : List Text} {w after : World} {code : Nat}
    {lines : List Text} (ran : run (step.word :: arguments) w = (code, lines, after)) :
    (code = 1 → ∀ place,
      (∀ flags, Flags.read arguments = .ok flags → ¬ step.Scratch flags w place) →
        after.files.text? place = w.files.text? place) ∧
    (code = 0 → ∃ flags out project b game v, Flags.read arguments = .ok flags ∧
      flags.get? "state-out" = some out ∧ step.project flags w = .ok project w ∧
      step.play flags w = .ok (project, b, game) v ∧
      (b.event = .ended → lines = boundaryLines b none) ∧
      (b.event ≠ .ended → lines = boundaryLines b (some out) ∧
        ((∀ x ∈ game.snapshot.toJson.numbers, Number.isFinite x = true) →
          ∃ image found, PlayerState.read out after = .ok (⟨project.root, image⟩, found) after ∧
            image.unsigned = game.snapshot.toJson.unsigned ∧
            found.toJson.unsigned = game.snapshot.toJson.unsigned))) := by
  rw [run, step.request_eq] at ran
  cases read : Flags.read arguments with
  | error problem =>
    rw [read] at ran
    cases ran
    exact ⟨fun _ _ _ => rfl, nofun⟩
  | ok flags =>
    rw [read, run_bind_ok (Step.run_checked flags)] at ran
    have ends := step.ends_job flags w
    unfold Ends at ends
    cases done : step.job flags w with
    | error failure u =>
      rw [done] at ran ends
      cases ran
      exact ⟨fun _ place clear => ends place (clear flags rfl), nofun⟩
    | ok printed u =>
      rw [done] at ran ends
      cases ran
      obtain ⟨out, p, b, g, v, named, played, arrives, settled⟩ := ends
      refine ⟨nofun, fun _ => ⟨flags, out, p, b, g, v, rfl, named, arrives.project, played,
        settled.1, fun waits => ?_⟩⟩
      obtain ⟨said, before, written⟩ := settled.2 waits
      exact ⟨said, fun finite => arrives.game.savable.snapshot.read_write finite
        arrives.root written⟩

/-- A story with a way that saves and leads nowhere then. -/
def cellarSource : Text :=
  "ask \"Go down?\" \"Yes\" -> down \"No\" -> stay; label stay: \"Good night.\";
    label down: save cellar; goto nowhere;"

/-- The state of the story at its choice. -/
def cellarState : State Float where
  index := .nth 1
  choice := some
    { prompt := "Go down?", options := [⟨"Yes", "down"⟩, ⟨"No", "stay"⟩], started := 0.0 }

/-- A state file that holds the state. -/
def cellarFile : Text :=
  (PlayerState.toJson ⟨"/game", (Snapshot.ofState cellarState "main.vn" 0.0).toJson⟩).compact

/-- The story with its state file. -/
def cellarWorld : World where
  files := ⟨⟨[("/game", .directory), ("/game/main.vn", .file cellarSource),
    ("/state", .file cellarFile)]⟩⟩

/-- The arguments of a request that begins the story. -/
def cellarStart : List Text := ["--project", "/game", "--state-out", "/state"]

/-- The arguments of a request that goes down, from a state file and back to it. -/
def cellarChoice : List Text := ["--state-in", "/state", "--choice", "0", "--state-out", "/state"]

/-- The flags of the second request. -/
def cellarFlags : Flags :=
  ⟨⟨[("state-in", "/state"), ("choice", "0"), ("state-out", "/state")]⟩⟩

/-- The slot that a command saves to, if it saves to one. -/
def slot? : Command → Option Text
  | .save slot => slot
  | _ => none

/-- The only slot that the story names. -/
theorem slot_of_cellar {script slot : Text} {program : Program}
    (read : Reading cellarWorld.files.text? script program)
    (mem : .save (some slot) ∈ program.commands) : slot = "cellar" := by
  obtain ⟨⟨known, reached⟩, parsed, slots⟩ := exists_ok
    (x := Program.ofFile cellarWorld.files false (.nth 0) "/game/main.vn")
    (f := fun r => r.1.commands.toList.all fun c =>
      slot? c = none ∨ slot? c = some (Text.ofString "cellar"))
    (b := true) (by decide +kernel)
  have main : Reading cellarWorld.files.text? "/game/main.vn" known :=
    Reading.ofFile cellarWorld.files.within_text?.holds parsed
  have script_eq : script = "/game/main.vn" := by
    by_contra other
    obtain ⟨files, strict, text, reached, -, first, made⟩ := read
    refine Program.head_ne_brace made ?_
    by_cases state : script = "/state"
    · have held : cellarWorld.files.text? "/state" = some cellarFile := rfl
      rw [state, held] at first
      cases first
      decide
    unfold FileTree.text? FileTree.nodeAt at first
    by_cases root : script = Path.root
    · simp [root] at first
    by_cases game : script = "/game"
    · simp [game, cellarWorld, Table.get?] at first
    · simp [root, game, other, state, cellarWorld, Table.get?, Table.lookup_cons] at first
  subst script_eq
  rw [read.unique main] at mem
  have named := List.all_eq_true.mp slots _ (Array.mem_toList_iff.mpr mem)
  simpa [slot?] using named

set_option maxRecDepth 4000 in
/-- The state file is none of the saves. -/
theorem cellarFile_off_saves : ∀ slot ∈ [none, some (Text.ofString "cellar")],
    Text.ofString "/state" ∉ savePlaces (saveFile "/game/saves/quick.json" slot) := by
  decide

/-- The story is begun, and its state file is read again. On the way down the step saves and fails
then, and the state file that it came from and should write is what it was. -/
theorem step_loses_nothing_cellar :
    ∃ lines after lines' after',
      run (Step.start.word :: cellarStart) cellarWorld = (0, lines, after) ∧
      (∃ image found, PlayerState.read "/state" after = .ok (⟨"/game", image⟩, found) after) ∧
      run (Step.choose.word :: cellarChoice) cellarWorld = (1, lines', after') ∧
      after'.files.isFile "/game/saves/slots/cellar.json" = true ∧
      after'.files.text? "/state" = cellarWorld.files.text? "/state" := by
  have begun : (run (Step.start.word :: cellarStart) cellarWorld).1 = 0 := by decide +kernel
  have failed : (fun r : Nat × List Text × World =>
      (r.1, r.2.2.files.isFile "/game/saves/slots/cellar.json"))
      (run (Step.choose.word :: cellarChoice) cellarWorld) = (1, true) := by
    decide +kernel
  rcases ran : run (Step.start.word :: cellarStart) cellarWorld with ⟨code, lines, after⟩
  rcases ran' : run (Step.choose.word :: cellarChoice) cellarWorld with ⟨code', lines', after'⟩
  rw [ran] at begun
  rw [ran'] at failed
  obtain rfl : code = 0 := begun
  obtain ⟨rfl, saved⟩ := Prod.mk.inj failed
  refine ⟨lines, after, lines', after', rfl, ?_, rfl, saved, ?_⟩
  · obtain ⟨flags, out, project, b, game, v, read, named, -, played, -, waits⟩ :=
      (step_loses_nothing ran).2 rfl
    have given : Flags.read cellarStart =
        .ok ⟨⟨[("project", "/game"), ("state-out", "/state")]⟩⟩ := rfl
    cases given.symm.trans read
    cases named
    obtain ⟨⟨p, b', g⟩, v', known, seen⟩ := exists_run
      (m := Step.start.play ⟨⟨[("project", "/game"), ("state-out", "/state")]⟩⟩) (s := cellarWorld)
      (f := fun r _ => (r.1.root, r.2.1.event,
        decide (∀ x ∈ r.2.2.snapshot.toJson.numbers, Number.isFinite x = true)))
      (b := (Text.ofString "/game", .choices, true)) (by decide +kernel)
    cases known.symm.trans played
    simp only [Prod.mk.injEq, decide_eq_true_eq] at seen
    obtain ⟨root, event, finite⟩ := seen
    obtain ⟨-, again⟩ := waits (by rw [event]; decide)
    obtain ⟨image, found, loaded, -⟩ := again finite
    exact ⟨image, found, root ▸ loaded⟩
  · refine (step_loses_nothing ran').1 rfl "/state" fun flags read scratch => ?_
    have given : Flags.read cellarChoice = .ok cellarFlags := rfl
    cases given.symm.trans read
    obtain ⟨q, v, known, savePath⟩ := exists_run (m := Step.choose.project cellarFlags)
      (s := cellarWorld) (f := fun p _ => p.savePath) (b := "/game/saves/quick.json")
      (by decide +kernel)
    have clear : ∀ place, Step.choose.Scratch cellarFlags cellarWorld place → place ≠ "/state" := by
      rintro place (@⟨out, named⟩ | @⟨p, _, plays, slot, slotNamed, mem⟩) same
      · have asked : cellarFlags.get? "state-out" = some (Text.ofString "/state") := rfl
        rw [← Option.some.inj (asked.symm.trans named)] at same
        exact absurd same (by decide)
      · cases known.symm.trans plays
        rw [savePath, same] at mem
        refine cellarFile_off_saves slot ?_ mem
        cases slotNamed with
        | quick => exact List.mem_cons_self
        | slot read saves => simp [slot_of_cellar read saves]
    exact clear _ scratch rfl

end Agent
end VisualNovel
