import VisualNovel.Proofs.Relay.Relay

/-!
Decisions can wait.

The runner stops where the player has to decide something. A tool that looks at a game again, or that
goes on from a snapshot of it, plays one more frame there before the player decides. That frame changes
nothing as long as there is time left to choose (`Game.leavesTime`): the game stays at its boundary,
and the game of the snapshot comes to the same one (`boundary_stays`). For a snapshot to be accepted,
its next command must not be behind the program; that is so wherever a decision is pending
(`Game.Change.anchored`), since a call that leads astray leaves nothing to decide.

A choice with no time at all is offered nevertheless, and the frame after that takes it
(`boundary_moves_on`).
-/

namespace VisualNovel

variable {τ : Type} [Clock τ]

/-! ## 1. Time to choose -/

/-- A choice with time left: it has no timeout, or one that takes time and is not over. -/
def Choice.leavesTime (now : τ) (c : Choice τ) : Bool :=
  c.timeout.all fun timeout =>
    Clock.lt (Clock.zero : τ) (Clock.ofMillis timeout) &&
      Clock.lt (Clock.sub now c.started) (Clock.ofMillis timeout)

/-- A game in which no choice is overdue. -/
def Game.leavesTime (g : Game τ) : Bool := g.state.choice.all (·.leavesTime g.now)

/-- Nothing is chosen for the player as long as there is time. -/
theorem Action.checkTimeout_of_leavesTime {g : Game τ} (time : g.leavesTime = true) :
    checkTimeout g = .ok () g := by
  refine checkTimeout_of_time fun c timeout pending _ given => ?_
  simp only [Game.leavesTime, pending, Option.all_some, Choice.leavesTime, given,
    Bool.and_eq_true] at time
  exact time.2

/-- A choice with time left has time left on a clock that begins at zero. -/
theorem Choice.leavesTime_moved (rewinds : Clock.Rewinds τ) {now : τ} {c d : Choice τ}
    (time : c.leavesTime now = true) (timeout : d.timeout = c.timeout)
    (started : d.started = Clock.sub Clock.zero (Clock.ago now c.started)) :
    d.leavesTime Clock.zero = true := by
  rw [leavesTime] at time ⊢
  rw [timeout]
  cases given : c.timeout with
  | none => rfl
  | some limit =>
    simp only [given, Option.all_some, Bool.and_eq_true] at time ⊢
    refine ⟨time.1, ?_⟩
    rw [started]
    exact rewinds.sub_sub_lt (rewinds.max_lt time.1 time.2)

/-! ## 2. Where a decision is pending -/

/-- The player has to decide something. -/
def State.Asks (s : State τ) : Prop :=
  s.map.active = true ∨ s.choice.isSome = true ∨ s.question.isSome = true

omit [Clock τ] in
theorem State.Free.not_asks {s : State τ} (free : s.Free) : ¬ s.Asks := by
  rintro (active | pending | asked)
  · rw [free.map] at active
    cases active
  · rw [free.choice] at pending
    cases pending
  · rw [free.question] at asked
    cases asked

/-- The next command is not behind the program while a decision is pending. -/
def State.Anchored (s : State τ) (size : Nat) : Prop := s.Asks → s.index.exceeds size = false

omit [Clock τ] in
theorem State.Inside.not_exceeds {s : State τ} {size : Nat} (h : s.Inside size) :
    s.index.exceeds size = false := by
  obtain ⟨n, inside, place⟩ := h
  rw [place]
  exact decide_eq_false (Nat.not_lt.mpr inside)

omit [Clock τ] in
/-- A state with fewer decisions and the same next command. -/
theorem State.Anchored.less {s t : State τ} {size : Nat} (h : s.Anchored size)
    (less : t.Asks → s.Asks) (index : t.index = s.index) : t.Anchored size := by
  intro asks
  rw [index]
  exact h (less asks)

theorem State.Change.anchored {program : Program} {s t : State τ}
    (labels : ∀ name i, program.labels.get? name = some i → i ≤ program.commands.size)
    (change : s.Change program t) (h : s.Anchored program.commands.size) :
    t.Anchored program.commands.size := by
  cases change with
  | hideSprite name transition =>
    obtain ⟨_, _, same⟩ := s.hideSprite_frame name transition
    rw [same]
    exact h
  | @animate name sprite found goal seconds ease mem now =>
    obtain ⟨_, _, same⟩ := s.animate_frame name sprite goal seconds ease now
    rw [same]
    exact h
  | takeItem id amount =>
    obtain ⟨_, same⟩ := s.takeItem_frame id amount
    rw [same]
    exact h
  | offer free inside => exact fun _ => inside.not_exceeds
  | ask free inside => exact fun _ => inside.not_exceeds
  | showMap free inside image behind =>
    subst behind
    have whole : program.commands.size = program.commands.toList.length := by simp
    rw [whole] at inside ⊢
    exact fun _ => State.Inside.not_exceeds inside.over_points
  | turn pending => exact h.less (fun asks => asks.imp_right fun _ => .inl (by rw [pending]; rfl)) rfl
  | choose => exact h.less (fun asks => asks.imp_right (·.imp_left nofun)) rfl
  | edit pending =>
    exact h.less (fun asks => asks.imp_right (·.imp_right fun _ => by rw [pending]; rfl)) rfl
  | answer => exact h.less (fun asks => asks.imp_right (·.imp_right nofun)) rfl
  | closeMap => exact h.less (fun asks => asks.imp_left nofun) rfl
  | next running =>
    have free := (State.free_of_running running).1
    exact fun asks => absurd asks { free with : State.Free _ }.not_asks
  | goto found =>
    exact fun _ => decide_eq_false (Nat.not_lt.mpr (labels _ _ found))
  | _ => exact h

/-- A game of a project whose next command is not behind its program while a decision is pending. -/
structure Game.Anchored (original : Text → Option Text) (setup : Setup τ) (g : Game τ) : Prop where
  place : g.setup = setup
  stocked : g.Stocked original
  state : g.state.Anchored g.program.commands.size

section

variable {original : Text → Option Text} {setup : Setup τ}

/-- Every change keeps a game anchored: a call leaves nothing to decide, wherever it leads. -/
theorem Game.Change.anchored {given : Snapshot τ → Prop} {g t : Game τ}
    (change : Game.Change given g t) (h : g.Anchored original setup) :
    t.Anchored original setup := by
  have stocked := change.stocked h.stocked
  have called : ∀ {program : Program} {index : Ordinal} {size : Nat}, g.state.Free →
      ({ g.state.introduceAll program with loading := none, index } : State τ).Anchored size := by
    intro program index size free asks
    obtain ⟨characters, same⟩ := g.state.introduceAll_frame program
    rw [same] at asks
    exact absurd asks { free with : State.Free _ }.not_asks
  cases change with
  | state change =>
    refine { h with stocked, state := change.anchored (fun name i found => ?_) h.state }
    exact Nat.le_of_lt (h.stocked.program.wellFormed.labels name i found)
  | around | request | openVideo | lookVideo | closeVideo | load | evict | clearLibrary | save =>
    exact { h with stocked }
  | call mem free => exact { h with stocked, state := called free }
  | stray mem free => exact { h with stocked, state := called free }
  | restart =>
    exact { h with stocked, state := fun _ => (State.inside_start g.entry _).not_exceeds }
  | @resume data program source offered inside =>
    refine { h with stocked, state := fun _ => ?_ }
    obtain ⟨characters, same⟩ := (data.toState g.now).introduceAll_frame program
    rw [same]
    exact inside

end

/-! ## 3. Resting at a boundary -/

/-- The boundary at which a game stands, with the texts that were said on the way. -/
def Game.boundary (g : Game τ) (texts : List Text) : Boundary :=
  match g.status with
  | .waitingChoice => .atChoice texts g.state.choice
  | .mapOverlay => .atMap texts g.state.map
  | .waitingInput => .atQuestion texts g.state.question
  | _ => { event := .ended, texts }

/-- The runner stops at the boundary of the game that it leaves. -/
theorem Action.boundary_eq_of_playAtMost {limit : Nat} {now : τ} {said : List Text} {g t : Game τ}
    {b : Boundary} (h : playAtMost limit now said g = .ok b t) : ∃ texts, b = t.boundary texts := by
  induction limit generalizing g now said with
  | zero => cases h
  | succ limit ih =>
    unfold playAtMost at h
    obtain ⟨status, u, framed, h⟩ := run_bind_eq_ok.mp h
    have stands := status_of_frame framed
    obtain ⟨s, v, read, h⟩ := run_bind_eq_ok.mp h
    cases read
    cases status with
    | titleMenu | pauseMenu | dialogue | phone =>
      obtain ⟨_, _, _, h⟩ := run_bind_eq_ok.mp h
      exact ih h
    | waitingTimer | waitingVoice | waitingVideo | running => exact ih h
    | waitingChoice | mapOverlay | waitingInput | ended =>
      cases h
      exact ⟨said.reverse, by rw [Game.boundary, ← stands]⟩

theorem Action.boundary_eq_of_playToBoundary {g t : Game τ} {b : Boundary}
    (h : playToBoundary g = .ok b t) : ∃ texts, b = t.boundary texts := by
  unfold playToBoundary at h
  obtain ⟨k, u, read, h⟩ := run_bind_eq_ok.mp h
  exact boundary_eq_of_playAtMost h

namespace Game

variable {g t : Game τ}

/-- A game that stands where the player has to decide something. -/
structure Decides (g : Game τ) : Prop where
  menu : g.menu = none
  asks : g.state.Asks

omit [Clock τ] in
/-- What the player decides: a map is before a choice, and a choice is before a question. -/
theorem Decides.cases (h : g.Decides) :
    (g.status = .mapOverlay ∧ g.state.map.active = true) ∨
    (g.status = .waitingChoice ∧ g.state.map.active = false ∧ ∃ c, g.state.choice = some c) ∨
    (g.status = .waitingInput ∧ g.state.map.active = false ∧ g.state.choice = none ∧
      ∃ q, g.state.question = some q) := by
  rw [Game.status, h.menu]
  simp only
  unfold Status.ofState
  cases active : g.state.map.active with
  | true => exact .inl ⟨rfl, rfl⟩
  | false =>
    cases pending : g.state.choice with
    | some c => exact .inr (.inl ⟨rfl, rfl, c, rfl⟩)
    | none =>
      cases asked : g.state.question with
      | some q => exact .inr (.inr ⟨rfl, rfl, rfl, q, rfl⟩)
      | none =>
        exfalso
        simpa [State.Asks, active, pending, asked] using h.asks

omit [Clock τ] in
/-- A boundary that is not the end is one where the player decides. -/
theorem decides_of_boundary {texts : List Text} (other : (g.boundary texts).event ≠ .ended) :
    g.Decides := by
  unfold Game.boundary Game.status at other
  cases menu : g.menu with
  | some m =>
    rw [menu] at other
    cases kind : m.kind <;> simp [Status.ofMenu, kind] at other
  | none =>
    refine ⟨menu, ?_⟩
    rw [menu] at other
    simp only at other
    rcases Status.ofState_cases g.state g.program.commands.size with
      ⟨-, active⟩ | ⟨-, pending⟩ | ⟨-, asked⟩ | ⟨same, -⟩ | ⟨wait, same, -⟩ | ⟨same, -⟩
    · exact .inl active
    · exact .inr (.inl pending)
    · exact .inr (.inr asked)
    · rw [same] at other
      exact absurd rfl other
    · rw [same] at other
      cases wait <;> exact absurd rfl other
    · rcases same with same | same | same <;> (rw [same] at other; exact absurd rfl other)

/-- A frame without events changes nothing where the player decides, as long as there is time. -/
theorem Decides.frame (h : g.Decides) (time : g.leavesTime = true) :
    Action.frame [] g.now g = .ok g.status g := by
  have overlaid : (g.menu.isSome || g.state.isOverlaid) = true := by
    rw [State.isOverlaid]
    rcases h.asks with active | pending | asked
    · simp [active]
    · simp [pending]
    · simp [asked]
  exact Action.frame_of_overlaid (Action.checkTimeout_of_leavesTime time) overlaid

/-- The runner stays where the player decides. -/
theorem Decides.stays (h : g.Decides) (time : g.leavesTime = true) :
    Action.playToBoundary g = .ok (g.boundary []) g := by
  obtain ⟨limit, more⟩ : ∃ limit, runnerLimit = limit + 1 := ⟨99999, rfl⟩
  have looked : Action.state g = .ok g.state g := rfl
  rw [Action.playToBoundary, run_bind_ok (run_get g), more, Action.playAtMost,
    run_bind_ok (h.frame time), run_bind_ok looked, Game.boundary]
  rcases h.cases with ⟨same, -⟩ | ⟨same, -⟩ | ⟨same, -⟩
  · rw [same]
    rfl
  · rw [same]
    rfl
  · rw [same]
    rfl

/-! ## 4. Going on from a snapshot -/

/-- What the player has to decide comes back from a snapshot. -/
theorem Decides.comes_back (h : g.Decides) {u : Game τ} (menu : u.menu = none)
    (map : u.state.map = g.state.map)
    (choice : u.state.choice = Snapshot.choiceOf (Snapshot.waitingOf g.state g.now) u.now)
    (question : u.state.question = Snapshot.questionOf (Snapshot.waitingOf g.state g.now)) :
    u.Decides ∧ ∀ texts, u.boundary texts = g.boundary texts := by
  have place : u.status = Status.ofState u.state u.program.commands.size := by
    rw [Game.status, menu]
  rcases h.cases with ⟨same, active⟩ | ⟨same, active, c, pending⟩ | ⟨same, active, free, q, asked⟩
  · have shown : u.state.map.active = true := by rw [map, active]
    have stands : u.status = .mapOverlay := by rw [place, Status.ofState, if_pos shown]
    refine ⟨⟨menu, .inl shown⟩, fun texts => ?_⟩
    rw [Game.boundary, stands, Game.boundary, same]
    simp only [map]
  · rw [Snapshot.waitingOf, pending] at choice
    have hidden : ¬ u.state.map.active = true := by rw [map, active]; exact Bool.false_ne_true
    have offered : u.state.choice.isSome = true := by rw [choice]; rfl
    have stands : u.status = .waitingChoice := by
      rw [place, Status.ofState, if_neg hidden, if_pos offered]
    refine ⟨⟨menu, .inr (.inl offered)⟩, fun texts => ?_⟩
    rw [Game.boundary, stands, Game.boundary, same]
    simp only [choice, pending]
    rfl
  · rw [Snapshot.waitingOf, free, asked] at choice question
    have hidden : ¬ u.state.map.active = true := by rw [map, active]; exact Bool.false_ne_true
    have none : ¬ u.state.choice.isSome = true := by rw [choice]; exact Bool.false_ne_true
    have put : u.state.question.isSome = true := by rw [question]; rfl
    have stands : u.status = .waitingInput := by
      rw [place, Status.ofState, if_neg hidden, if_neg none, if_pos put]
    refine ⟨⟨menu, .inr (.inr put)⟩, fun texts => ?_⟩
    rw [Game.boundary, stands, Game.boundary, same]
    simp only [question, asked]
    rfl

/-- Time that is left is left on the clock of a new game. -/
theorem leavesTime_comes_back (rewinds : Clock.Rewinds τ) (time : g.leavesTime = true) {u : Game τ}
    (now : u.now = Clock.zero)
    (choice : u.state.choice = Snapshot.choiceOf (Snapshot.waitingOf g.state g.now) u.now) :
    u.leavesTime = true := by
  rw [leavesTime, choice, now]
  rw [leavesTime] at time
  cases pending : g.state.choice with
  | some c =>
    rw [pending] at time
    rw [Snapshot.waitingOf, pending]
    exact Choice.leavesTime_moved rewinds (c := c) time rfl rfl
  | none =>
    rw [Snapshot.waitingOf, pending]
    cases g.state.question with
    | some q => rfl
    | none => cases g.state.wait <;> rfl

/-- A new game of the project takes up a snapshot of an anchored game, if the script of the snapshot
can still be read. -/
theorem Opens.takeUp {files original : FileTree} {setup : Setup τ} {program : Program} {h : Game τ}
    (opens : h.Opens setup files program) (anchored : g.Anchored original.text? setup)
    (decides : g.Decides) (told : files.Tells g.program.script g.program) :
    ∃ u, Action.resume g.snapshot h = .ok () u ∧ u.menu = none ∧ u.now = h.now ∧
      ∃ characters, u.state = { g.snapshot.toState h.now with characters } := by
  have absolute := anchored.stocked.program.script_eq.symm
  have script : Path.fromProject h.setup.root g.snapshot.script = g.program.script := by
    rw [Game.snapshot, Snapshot.ofState, opens.place, anchored.place, Path.fromProject_toProject]
    exact absolute
  obtain ⟨library, logs, found, -⟩ :=
    (opens.supplied opens.told (.refl files)).savedProgram told absolute
  have reached : g.snapshot.index.exceeds g.program.commands.size = false :=
    anchored.state decides.asks
  obtain ⟨characters, same⟩ := (g.snapshot.toState h.now).introduceAll_frame g.program
  obtain ⟨requests, resumed⟩ : ∃ requests,
      Action.resumeFrom g.snapshot g.program { h with library, logs } =
        .ok () { h with
          library, logs, requests, program := g.program
          state := { g.snapshot.toState h.now with characters } } :=
    ⟨_, (Action.resumeFrom_eq _ _ _).trans (by rw [same])⟩
  have restored : Action.restore g.snapshot h =
      .ok true { h with
        library, logs, requests, program := g.program
        state := { g.snapshot.toState h.now with characters } } := by
    rw [Action.restore, run_bind_ok (run_get h), script, run_bind_ok found]
    simp only [reached]
    exact run_bind_ok resumed
  refine ⟨{ h with
    library, logs, requests, program := g.program
    state := { g.snapshot.toState h.now with characters }, menu := none }, ?_, rfl, rfl, characters,
    rfl⟩
  rw [Action.resume, run_bind_ok restored]
  rfl

end Game

/-- A game that goes on from a snapshot comes to the boundary of the game that it was taken of, with
the same variables and the same next command. -/
theorem Project.goOn_decides (rewinds : Clock.Rewinds τ) {project : Project} {files : FileTree}
    {g : Game τ} (anchored : g.Anchored files.text? (project.launchOn τ files).setup)
    (decides : g.Decides) (time : g.leavesTime = true)
    (entry : ∃ p, g.files.Tells project.entry p)
    (script : ∃ p, g.files.Tells g.program.script p) :
    ∃ u, project.goOn g.files g.snapshot = .done (g.boundary []) u ∧
      u.state.vars = g.state.vars ∧ u.state.index = g.state.index := by
  obtain ⟨program, told⟩ := entry
  -- What the script tells now is what it told at first.
  have own : g.files.Tells g.program.script g.program := by
    obtain ⟨p, reached, read⟩ := script
    have reading := Reading.ofFile anchored.stocked.files read
    rw [← anchored.stocked.program.script_eq] at reading
    obtain rfl := reading.unique anchored.stocked.program
    exact ⟨reached, read⟩
  obtain ⟨h, opens, launched⟩ := after_launch (τ := τ) told
  obtain ⟨u, resumed, menu, now, characters, state⟩ := opens.takeUp anchored decides own
  have choice : u.state.choice = Snapshot.choiceOf (Snapshot.waitingOf g.state g.now) u.now := by
    rw [state, now]
    rfl
  obtain ⟨decides', same⟩ := decides.comes_back (u := u) menu (by rw [state]; rfl) choice
    (by rw [state]; rfl)
  have time' := Game.leavesTime_comes_back rewinds time (now.trans opens.now) choice
  refine ⟨u, ?_, by rw [state]; rfl, by rw [state]; rfl⟩
  rw [goOn, launched, run_bind_ok resumed, decides'.stays time', same]
  rfl

/-- Where the runner stops for a decision, it stops again, as long as no choice is overdue. It says
nothing more, and changes nothing. A game of a project that goes on from a snapshot comes to the same,
if the scripts of the project can still be read. -/
theorem boundary_stays (rewinds : Clock.Rewinds τ) {g t : Game τ} {b : Boundary}
    (stopped : Action.playToBoundary g = .ok b t) (other : b.event ≠ .ended)
    (time : t.leavesTime = true) :
    Action.playToBoundary t = .ok { b with texts := [] } t ∧
    ∀ {project : Project} {files : FileTree} {start : Game τ} {taken : List (Snapshot τ)},
      (project.launchOn τ files).load = .done () start →
      Played (fun _ _ => True) start taken g →
      (∃ p, t.files.Tells project.entry p) → (∃ p, t.files.Tells t.program.script p) →
      ∃ u, project.goOn t.files t.snapshot = .done { b with texts := [] } u ∧
        u.state.vars = t.state.vars ∧ u.state.index = t.state.index := by
  obtain ⟨texts, rfl⟩ := Action.boundary_eq_of_playToBoundary stopped
  have decides := Game.decides_of_boundary other
  have quiet : { t.boundary texts with texts := [] } = t.boundary [] := by
    rw [Game.boundary, Game.boundary]
    rcases decides.cases with ⟨same, -⟩ | ⟨same, -⟩ | ⟨same, -⟩ <;> (rw [same]; rfl)
  rw [quiet]
  refine ⟨decides.stays time, ?_⟩
  intro project files start taken begun played entry script
  obtain ⟨program, told⟩ := Project.tells_of_done begun
  obtain ⟨h, opens, launched⟩ := Project.after_launch (τ := τ) told
  have first : start.Anchored files.text? (project.launchOn τ files).setup := by
    rw [Launch.load, launched] at begun
    cases begun
    refine ⟨opens.place, opens.stocked, ?_⟩
    rw [opens.fresh]
    exact fun _ => (State.inside_start _ _).not_exceeds
  have before := (played.invariant (Q := fun _ => True) first (fun _ _ => trivial)
    (fun _ _ _ _ _ _ => trivial) fun _ _ _ _ change => change.anchored).1
  have follows : Action.Follows (fun _ => False) g Action.playToBoundary g :=
    Game.Changes.playToBoundary .refl
  have anchored := (follows.keeps (fun _ _ change => change.anchored) before).of_ok stopped
  exact Project.goOn_decides rewinds anchored decides time entry script

/-- A story with a choice, and some time to decide. -/
def forkSource : Text :=
  "\"A fork.\"; ask \"Where to?\" timeout 5 default 1 \"Left\" -> left \"Right\" -> right;
    label left: \"Left.\"; label right: \"Right.\";"

/-- At the fork there is time: the runner stops there again, in the same game and in the game of its
snapshot. -/
theorem boundary_stays_fork :
    ∃ (start : Game Float) (b : Boundary) (t : Game Float),
      (gameProject.launchOn Float (soloFiles forkSource)).load = .done () start ∧
      Action.playToBoundary start = .ok b t ∧ b.texts = [Text.ofString "A fork."] ∧
      Action.playToBoundary t = .ok { b with texts := [] } t ∧
      ∃ u, gameProject.goOn t.files t.snapshot = .done { b with texts := [] } u ∧
        u.state.vars = t.state.vars ∧ u.state.index = t.state.index := by
  obtain ⟨_, start, begun, seen⟩ := Launched.exists_done
    (x := (gameProject.launchOn Float (soloFiles forkSource)).load)
    (f := fun _ g => match Action.playToBoundary g with
      | .ok b t => decide (b.event = .choices ∧ b.texts = [Text.ofString "A fork."] ∧
          t.leavesTime = true ∧ t.program.script = "/game/main.vn" ∧
          (Program.ofFile t.files false (.nth 0) "/game/main.vn").toOption.isSome = true)
      | .error _ _ => false)
    (b := true) (by decide +kernel)
  cases stopped : Action.playToBoundary start with
  | error e t =>
    rw [stopped] at seen
    cases seen
  | ok b t =>
  rw [stopped] at seen
  obtain ⟨event, texts, time, script, readable⟩ := of_decide_eq_true seen
  have reads : ∃ p, t.files.Tells "/game/main.vn" p := by
    cases read : Program.ofFile t.files false (.nth 0) "/game/main.vn" with
    | error fault =>
      rw [read] at readable
      cases readable
    | ok result => exact ⟨result.1, result.2, read⟩
  obtain ⟨again, resumed⟩ := boundary_stays Clock.rewinds_float stopped
    (by rw [event]; exact nofun) time
  exact ⟨start, b, t, begun, stopped, texts, again,
    resumed begun .start reads (by rw [script]; exact reads)⟩

/-- A story with a choice that leaves no time, and another choice behind it. -/
def hastySource : Text :=
  "\"A fork.\"; ask \"Left or right?\" timeout 0 default 2 \"Left\" -> left \"Right\" -> right;
    label left: \"Left.\"; label right: ask \"Up or down?\" \"Up\" -> left \"Down\" -> left;"

/-- A choice without time is offered, and it is taken at the next look: in the same game and in the
game of its snapshot the player is asked something else then. -/
theorem boundary_moves_on :
    ∃ (b : Boundary) (t : Game Float), gameProject.begin (soloFiles hastySource) = .done b t ∧
      b.event = .choices ∧ b.choicePrompt = some (Text.ofString "Left or right?") ∧
      (Action.playToBoundary.outcome t).toOption.map (·.choicePrompt) =
        some (some (Text.ofString "Up or down?")) ∧
      (gameProject.goOn t.files t.snapshot).view (fun b _ => b.choicePrompt) =
        some (some (Text.ofString "Up or down?")) := by
  obtain ⟨b, t, begun, seen⟩ := Launched.exists_done
    (x := gameProject.begin (τ := Float) (soloFiles hastySource))
    (f := fun (b : Boundary) (t : Game Float) => decide (b.event = .choices ∧
      b.choicePrompt = some (Text.ofString "Left or right?") ∧
      (Action.playToBoundary.outcome t).toOption.map (·.choicePrompt) =
        some (some (Text.ofString "Up or down?")) ∧
      (gameProject.goOn t.files t.snapshot).view (fun b _ => b.choicePrompt) =
        some (some (Text.ofString "Up or down?"))))
    (b := true) (by decide +kernel)
  exact ⟨b, t, begun, of_decide_eq_true seen⟩

end VisualNovel
