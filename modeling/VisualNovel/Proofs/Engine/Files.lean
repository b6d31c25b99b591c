import VisualNovel.Proofs.Engine.Aside
import VisualNovel.Proofs.Relay.Relay

/-!
What a story writes.

A story has one way to write a file: the command that saves. Every other action leaves all files as
they are (`Action.Still`). A save touches its file and the place beside it, and makes directories
(`Snapshot.sameBeyond_save`). So where a story is played without the help of a player, the files that
can change are the saves that its scripts ask for and what stands beside them, whether the play
succeeds or fails (`sparing_playToBoundary`); every other file keeps its text.
-/

namespace VisualNovel

variable {τ : Type} {original : Text → Option Text}

/-! ## 1. Still actions -/

/-- What is around the story stays: what does not change in play, and the files. -/
structure Game.SamePlace (g t : Game τ) : Prop where
  setup : t.setup = g.setup
  files : t.files = g.files

namespace Game.SamePlace

variable {g t u : Game τ}

theorem refl (g : Game τ) : g.SamePlace g := ⟨rfl, rfl⟩

theorem trans (h : g.SamePlace t) (h' : t.SamePlace u) : g.SamePlace u :=
  ⟨h'.setup.trans h.setup, h'.files.trans h.files⟩

end Game.SamePlace

namespace Action

variable {α β : Type}

/-- An action that writes nothing, whether it succeeds or fails. -/
def Still (m : Action τ α) : Prop := ∀ g : Game τ, Keeps g.SamePlace (fun _ => True) m g

/-- What leaves aside all that is kept from scene to scene is still. -/
theorem Aside.still {m : Action τ α} (h : m.Aside fun _ => True) : m.Still := fun g =>
  (h g).mono (fun _ same => ⟨same.setup, same.files⟩) fun _ => id

theorem Still.after {m : Action τ α} (h : m.Still) {g t : Game τ} (same : g.SamePlace t) :
    Keeps g.SamePlace (fun _ => True) m t := (h t).mono (fun _ => same.trans) fun _ => id

theorem Still.bind {m : Action τ α} {f : α → Action τ β} (first : m.Still)
    (second : ∀ a, (f a).Still) : (m >>= f).Still := fun g =>
  Keeps.bind (first g) fun a _ same => (second a).after same

theorem Still.ite {c : Prop} [Decidable c] {m n : Action τ α} (yes : m.Still) (no : n.Still) :
    (if c then m else n).Still := by
  split
  · exact yes
  · exact no

theorem still_pure (a : α) : (pure a : Action τ α).Still := fun g => .refl g

theorem still_get : (get : Action τ (Game τ)).Still := fun g => .refl g

theorem still_state : (state : Action τ (State τ)).Still := fun g => .refl g

theorem still_modify {f : Game τ → Game τ} (same : ∀ g : Game τ, g.SamePlace (f g)) :
    (modify f : Action τ PUnit).Still := same

theorem still_change (f : State τ → State τ) : (change f).Still := fun _ => ⟨rfl, rfl⟩

theorem still_request (r : AssetRequest) : (request r : Action τ Unit).Still := fun _ => ⟨rfl, rfl⟩

theorem still_log (level : LogLevel) (message : Text) : (log level message : Action τ Unit).Still :=
  fun _ => ⟨rfl, rfl⟩

theorem still_logAll (records : List LogRecord) : (logAll records : Action τ Unit).Still :=
  fun _ => ⟨rfl, rfl⟩

theorem still_setMenu (menu : Option Menu) : (setMenu menu : Action τ Unit).Still :=
  fun _ => ⟨rfl, rfl⟩

theorem still_throw (e : Failure) : (throw e : Action τ α).Still := fun g => ⟨.refl g, trivial⟩

theorem still_fail (problem : PlayProblem) : (fail problem : Action τ α).Still := still_throw _

/-- A change of the state, and what is asked for before or after it. -/
theorem still_change_request (f : State τ → State τ) (r : AssetRequest) :
    (do change f; request r : Action τ Unit).Still :=
  (still_change f).bind fun _ => still_request r

/-! ### Small actions -/

theorem still_submit (text : Option Text) : (submit text : Action τ Unit).Still := by
  unfold submit
  refine still_state.bind fun s => ?_
  split
  · exact still_fail _
  · exact still_change _

theorem still_scroll (delta : Float) : (scroll delta : Action τ Float).Still :=
  still_get.bind fun _ => (still_change _).bind fun _ => still_state.bind fun _ => still_pure _

theorem still_restart : (restart : Action τ Unit).Still :=
  aside_closeVideo.still.bind fun _ => still_modify fun _ => ⟨rfl, rfl⟩

/-! ### Loading -/

theorem still_savedProgram (script : Text) :
    (savedProgram script : Action τ (Option Program)).Still := by
  intro g
  refine Ends.mono (ends_savedProgram g script) ?_ ?_
  · rintro found _ ⟨⟨library, logs, rfl, -⟩, -⟩
    exact ⟨rfl, rfl⟩
  · rintro e _ ⟨⟨library, logs, rfl, -⟩, -⟩
    exact ⟨⟨rfl, rfl⟩, trivial⟩

theorem still_resumeFrom [Clock τ] (data : Snapshot τ) (program : Program) :
    (resumeFrom data program).Still := fun g =>
  keeps_of_ok (resumeFrom_eq g data program) ⟨rfl, rfl⟩

theorem still_restore [Clock τ] (data : Snapshot τ) : (restore data).Still := by
  unfold restore
  refine still_get.bind fun game => (still_savedProgram _).bind fun found => ?_
  split
  · exact still_pure _
  · exact .ite ((still_log _ _).bind fun _ => still_pure _)
      ((still_resumeFrom _ _).bind fun _ => still_pure _)

theorem still_load [Clock τ] (slot : Option Text) : (load slot : Action τ Bool).Still := by
  unfold load slotFile loadFrom
  refine Still.bind (still_get.bind fun _ => still_pure _) fun path => still_get.bind fun game => ?_
  split
  refine (still_logAll _).bind fun _ => ?_
  split
  · exact still_pure _
  · exact still_restore _

theorem still_resume [Clock τ] (data : Snapshot τ) : (resume data).Still :=
  (still_restore data).bind fun _ => .ite (still_setMenu _) (still_fail _)

/-! ### Commands -/

/-- Every command but the one that saves. -/
theorem still_execute [Clock τ] {command : Command} (other : ∀ slot, command ≠ .save slot) :
    (execute command : Action τ Unit).Still := by
  have turned (f : State τ → State τ) : (do change f; let _ ← scroll 0.0 : Action τ Unit).Still :=
    (still_change f).bind fun _ => (still_scroll _).bind fun _ => still_pure _
  cases keeping : command.isKeeping with
  | false =>
    cases saving : command.isSaving with
    | false => exact (aside_execute keeping saving).loosen.still
    | true =>
      unfold execute
      refine still_get.bind fun game => ?_
      cases command with
      | save slot => exact absurd rfl (other slot)
      | load slot => exact (still_load slot).bind fun _ => still_pure _
      | _ => cases saving
  | true =>
    unfold execute
    refine still_get.bind fun game => ?_
    cases command with
    | setVariable =>
      simp only
      split
      · exact still_change _
      · exact still_log _ _
    | addVariable | showMeter | hideMeter | updateMeter | clearMeters => exact still_change _
    | addItem | removeItem | clearItems => exact turned _
    | music | echo | stopEcho => exact still_change_request _ _
    | mute =>
      refine (still_request _).bind fun _ => ?_
      have echo : ∀ {c : Prop} [Decidable c],
          (if c then change fun s => { s with echo := none } else pure () : Action τ Unit).Still :=
        .ite (still_change _) (still_pure _)
      exact .ite ((still_change _).bind fun _ => echo) echo
    | _ => cases keeping

/-- The title menu gives way to a new game. -/
theorem still_newGame [Clock τ] : (takeMenuAction "new_game" : Action τ Unit).Still := by
  have means : MenuAction.ofText "new_game" = .newGame := by decide
  unfold takeMenuAction
  refine still_get.bind fun game => ?_
  split
  · exact still_pure _
  · simp only [means]
    exact still_restart

end Action

/-! ## 2. Saves -/

/-- A game later in a story: of the files, only the saves of the story can have changed. -/
structure Game.Spared (original : Text → Option Text) (g t : Game τ) : Prop where
  setup : t.setup = g.setup
  files : g.files.Spares (SavePlace original g.setup.savePath) t.files

theorem Game.Spared.trans {g t u : Game τ} (h : g.Spared original t) (h' : t.Spared original u) :
    g.Spared original u := by
  have files := h'.files
  rw [h.setup] at files
  exact ⟨h'.setup.trans h.setup, h.files.trans files⟩

theorem Game.SamePlace.spared {g t : Game τ} (h : g.SamePlace t) : g.Spared original t :=
  ⟨h.setup, fun _ _ => by rw [h.files]⟩

namespace Action

variable [Clock τ] {α β : Type} {g t : Game τ}

/-- A save changes the files and the log, whatever comes of it. -/
theorem save_changes (slot : Option Text) (g : Game τ) :
    Keeps (fun t => ∃ files logs,
        g.files.SameBeyond (savePlaces (saveFile g.setup.savePath slot)) files ∧
          t = { g with files, logs })
      (fun _ => True) (save slot) g := by
  have named : slotFile slot g = .ok (saveFile g.setup.savePath slot) g := rfl
  have taken : Action.snapshot g = .ok g.snapshot g := rfl
  have written := Snapshot.sameBeyond_save (g.snapshot.mapTime Clock.toMillis) g.files
    (saveFile g.setup.savePath slot)
  unfold save saveTo
  rw [keeps_bind_ok named, keeps_bind_ok taken, keeps_get, keeps_set_bind, logAll,
    keeps_modify_bind]
  split
  · exact ⟨⟨_, _, written, rfl⟩, trivial⟩
  · exact ⟨_, _, written, rfl⟩
  · exact ⟨_, _, written, rfl⟩

/-- A command of a story writes at most what the story saves. -/
theorem spares_execute (stocked : g.Stocked original) {c : Command} (mem : c ∈ g.program.commands) :
    Keeps (g.Spared original) (fun _ => True) (execute c) g := by
  by_cases saves : ∃ slot, c = .save slot
  · obtain ⟨slot, rfl⟩ := saves
    have named : SlotNamed original slot := by
      cases slot with
      | none => exact .quick
      | some slot => exact .slot stocked.program mem
    unfold execute
    rw [keeps_get]
    refine Keeps.bind ((save_changes slot g).mono ?_ fun _ => id) fun _ _ spared => spared
    rintro t ⟨files, logs, same, rfl⟩
    exact ⟨rfl, same.spares fun place mem => ⟨slot, named, mem⟩⟩
  · exact (still_execute (fun slot same => saves ⟨slot, same⟩) g).mono (fun _ same => same.spared) fun _ => id

/-- The next command of a story. -/
theorem spares_step (stocked : g.Stocked original) :
    Keeps (g.Spared original) (fun _ => True) step g := by
  unfold step
  rw [keeps_get, keeps_change_bind]
  split
  · next c found =>
    have mem : c ∈ g.program.commands := by
      unfold Program.commandAt? at found
      split at found
      · exact Array.mem_of_getElem? found
      · cases found
    have moved : ({ g with state := { g.state with index := g.state.index.next } } :
        Game τ).Stocked original := { stocked with }
    exact (spares_execute moved mem).mono (fun t spared => ⟨spared.setup, spared.files⟩) fun _ => id
  · exact ⟨⟨rfl, .refl _ _⟩, trivial⟩

end Action

/-! ## 3. Play -/

namespace Action

variable [Clock τ] {α β : Type} {g t : Game τ}

/-- An action on a game of a project that writes at most what the project saves, and whose game is
still one of the project. -/
def Sparing (original : Text → Option Text) (m : Action τ α) (g : Game τ) : Prop :=
  Keeps (fun t => g.Spared original t ∧ t.Stocked original) (fun _ => True) m g

omit [Clock τ] in
theorem Sparing.bind {m : Action τ α} {f : α → Action τ β} (first : m.Sparing original g)
    (second : ∀ a t, t.Stocked original → (f a).Sparing original t) :
    (m >>= f).Sparing original g :=
  Keeps.bind first fun a t ⟨spared, stocked⟩ =>
    (second a t stocked).mono (fun _ ⟨later, stocked⟩ => ⟨spared.trans later, stocked⟩) fun _ => id

/-- Every change keeps the programs those of the project, so it is enough to look at the files. -/
theorem Follows.sparing {given : Snapshot τ → Prop} {m : Action τ α} (follows : Follows given g m g)
    (stocked : g.Stocked original) (spares : Keeps (g.Spared original) (fun _ => True) m g) :
    m.Sparing original g :=
  (spares.and (follows.keeps (fun _ _ change => change.stocked) stocked)).mono (fun _ => id)
    fun _ _ => trivial

theorem Still.sparing {given : Snapshot τ → Prop} {m : Action τ α} (still : m.Still)
    (stocked : g.Stocked original) (follows : Follows given g m g) : m.Sparing original g :=
  follows.sparing stocked ((still g).mono (fun _ same => same.spared) fun _ => id)

theorem sparing_runAtMost (limit : Nat) (stocked : g.Stocked original) :
    (runAtMost limit).Sparing original g := by
  induction limit generalizing g with
  | zero => exact ⟨⟨⟨rfl, .refl _ _⟩, stocked⟩, trivial⟩
  | succ limit ih =>
    have read : status g = .ok g.status g := rfl
    rw [runAtMost, Sparing, keeps_bind_ok read]
    refine .ite (fun _ => ⟨⟨rfl, .refl _ _⟩, stocked⟩) fun running => ?_
    have start : g.Changes (fun _ => False) g := .refl
    have follows := start.step (Game.closed_of_running (Decidable.not_not.mp running)).2
    exact Sparing.bind (follows.sparing stocked (spares_step stocked)) fun _ _ => ih

/-- Between the clock and the run of a frame nothing is written. -/
theorem sparing_frame (now : τ) (stocked : g.Stocked original) :
    (frame [] now).Sparing original g := by
  have runs : ∀ t : Game τ, t.Stocked original → run.Sparing original t :=
    fun t stocked => sparing_runAtMost _ stocked
  have start : ∀ t : Game τ, t.Changes (fun _ => False) t := fun _ => .refl
  unfold frame
  have set : (modify fun game => { game with now } : Action τ PUnit).Sparing original g :=
    ⟨⟨rfl, .refl _ _⟩, { stocked with }⟩
  refine set.bind fun _ t stocked => ?_
  refine Sparing.bind (still_pure _ |>.sparing stocked (start t)) fun _ t stocked => ?_
  refine Sparing.bind (aside_checkTimeout.still.sparing stocked (start t).checkTimeout) fun _ t stocked => ?_
  refine Sparing.bind (still_get.sparing stocked (start t)) fun game t stocked => ?_
  split
  · exact (still_pure _).sparing stocked (start t)
  · exact Sparing.bind (aside_passTime.still.sparing stocked (start t).passTime) fun _ => runs

theorem sparing_playAtMost (limit : Nat) (now : τ) (said : List Text)
    (stocked : g.Stocked original) : (playAtMost limit now said).Sparing original g := by
  have start : ∀ t : Game τ, t.Changes (fun _ => False) t := fun _ => .refl
  induction limit generalizing g now said with
  | zero => exact (still_fail _).sparing stocked ((start g).fail nofun)
  | succ limit ih =>
    unfold playAtMost
    refine (sparing_frame now stocked).bind fun status t stocked => ?_
    refine Sparing.bind (still_state.sparing stocked (start t)) fun s t stocked => ?_
    have dismissed : ∀ said, (do let _ ← advance; playAtMost limit now said).Sparing original t :=
      fun said => Sparing.bind (aside_advance.still.sparing stocked (start t).advance)
        fun _ _ stocked => ih now said stocked
    cases status with
    | titleMenu =>
      exact Sparing.bind (still_newGame.sparing stocked ((start t).takeMenuAction _))
        fun _ _ stocked => ih now said stocked
    | pauseMenu =>
      exact Sparing.bind ((still_setMenu none).sparing stocked ((start t).setMenu none))
        fun _ _ stocked => ih now said stocked
    | dialogue | phone => exact dismissed _
    | waitingTimer | waitingVoice | waitingVideo | running => exact ih _ _ stocked
    | waitingChoice | mapOverlay | waitingInput | ended =>
      exact (still_pure _).sparing stocked (start t)

/-- Whatever comes of playing to the next boundary, of the files only saves of the story have
changed. -/
theorem sparing_playToBoundary (stocked : g.Stocked original) :
    playToBoundary.Sparing original g := by
  unfold playToBoundary Sparing
  rw [keeps_get]
  generalize runnerLimit = limit
  exact sparing_playAtMost limit g.now [] stocked

/-- A story from its beginning. -/
theorem sparing_begin (stocked : g.Stocked original) :
    (do let _ ← run; playToBoundary : Action τ Boundary).Sparing original g :=
  Sparing.bind (sparing_runAtMost _ stocked) fun _ _ => sparing_playToBoundary

/-- A story from a snapshot. -/
theorem sparing_resume (data : Snapshot τ) (stocked : g.Stocked original) :
    (do resume data; playToBoundary : Action τ Boundary).Sparing original g := by
  have start : g.Changes (· = data) g := .refl
  exact Sparing.bind ((still_resume data).sparing stocked (start.resume rfl))
    fun _ _ => sparing_playToBoundary

/-- A story from a decision of the player on. -/
theorem sparing_decision (decision : Decision) (stocked : g.Stocked original) :
    decision.action.Sparing original g := by
  have start : g.Changes (fun _ => False) g := .refl
  cases decision with
  | choose pick =>
    exact Sparing.bind ((aside_choose pick).still.sparing stocked (start.choose pick))
      fun _ _ => sparing_playToBoundary
  | answer text =>
    exact Sparing.bind ((still_submit _).sparing stocked (start.submit _))
      fun _ _ => sparing_playToBoundary

end Action
end VisualNovel
