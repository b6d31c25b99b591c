import VisualNovel.Proofs.Engine.Aside
import VisualNovel.Proofs.Engine.Session

/-!
What is heard, and what the state knows of it.

The requests of a game tell which music and which echo are heard (`Game.heard`); its state remembers
which ones should be (`State.audio`). Most actions touch neither (`Action.Silent`): what leaves all things aside that are
kept is silent (`Action.Aside.silent`). The commands about music and echo change both alike. But a new game and a load replace the state. They ask for
the music and the echo of the new state, and for nothing to stop: what only the old state knew of
plays on (`music_outlives_restart`). After such an action both agree exactly if nothing was dropped
(`Game.Turns.inTune_iff`), so they agree along every session in which nothing is dropped
(`heard_eq_audio`).
-/

namespace VisualNovel

variable {τ : Type}

/-! ## 1. What is heard -/

/-- The music, with whether it is repeated, and the echo. -/
structure Heard where
  music : Option (Text × Bool) := none
  echo : Option Text := none
  deriving DecidableEq, Repr

/-- What is heard after a request. -/
def Heard.hear (h : Heard) : AssetRequest → Heard
  | .playMusic path loop => { h with music := some (path, loop) }
  | .playEcho path => { h with echo := some path }
  | .stopEcho => { h with echo := none }
  | .mute target =>
    { music :=
        if target = Text.ofString "all" ∨ target = Text.ofString "music" then none else h.music
      echo := if target = Text.ofString "all" ∨ target = Text.ofString "echo" then none else h.echo }
  | _ => h

/-- What is heard after all requests of a game. -/
def Game.heard (g : Game τ) : Heard := g.requests.foldl Heard.hear {}

/-- The music and the echo that a state knows. -/
def State.audio (s : State τ) : Heard := ⟨s.music.map fun m => (m.path, m.loop), s.echo⟩

/-- What is heard is what the state knows. -/
def Game.InTune (g : Game τ) : Prop := g.heard = g.state.audio

/-- What is heard and what the state knows are the same in two games. -/
structure Game.SameAudio (g t : Game τ) : Prop where
  heard : t.heard = g.heard
  audio : t.state.audio = g.state.audio

theorem Game.SameAudio.refl (g : Game τ) : g.SameAudio g := ⟨rfl, rfl⟩

theorem Game.SameAudio.trans {g t u : Game τ} (h : g.SameAudio t) (h' : t.SameAudio u) :
    g.SameAudio u := ⟨h'.heard.trans h.heard, h'.audio.trans h.audio⟩

theorem Game.SameAudio.inTune_iff {g t : Game τ} (h : g.SameAudio t) : t.InTune ↔ g.InTune := by
  rw [InTune, InTune, h.heard, h.audio]

/-- Of the requests only those about what plays on are heard. -/
theorem Game.heard_eq_asked (g : Game τ) : g.heard = g.asked.foldl Heard.hear {} := by
  have other : ∀ (h : Heard) (r : AssetRequest), r.playsOn = false → h.hear r = h := by
    intro h r quiet
    cases r <;> first | rfl | cases quiet
  rw [heard, ← Array.foldl_toList, asked, List.foldl_filter]
  congr 1
  funext h r
  split
  · rfl
  · next quiet => exact other h r (Bool.not_eq_true _ ▸ quiet)

/-- Where what is kept from scene to scene is the same, so are what is heard and what the state knows. -/
theorem Game.Aside.sameAudio {g t : Game τ} (h : g.Aside t) : g.SameAudio t := by
  have music : t.state.music = g.state.music := congrArg Store.music h.store
  have echo : t.state.echo = g.state.echo := congrArg Store.echo h.store
  refine ⟨?_, ?_⟩
  · rw [heard_eq_asked, heard_eq_asked, h.asked]
  · rw [State.audio, State.audio, music, echo]

/-- The commands about music and echo. -/
def Command.isAudio : Command → Bool
  | .music .. | .echo _ | .stopEcho | .mute _ => true
  | _ => false

/-- The commands that load. -/
def Command.isLoad : Command → Bool
  | .load _ => true
  | _ => false

/-! ## 2. Silent actions -/

namespace Action

variable {α β : Type}

/-- An action that leaves what is heard and what the state knows, whether it succeeds or fails. -/
def Silent (m : Action τ α) : Prop := ∀ g : Game τ, Keeps g.SameAudio (fun _ => True) m g

theorem Silent.bind {m : Action τ α} {f : α → Action τ β} (first : m.Silent)
    (second : ∀ a, (f a).Silent) : (m >>= f).Silent := fun g =>
  Keeps.bind (first g) fun a t same => (second a t).mono (fun _ => same.trans) fun _ => id

theorem Silent.after {m : Action τ α} (h : m.Silent) {g t : Game τ} (same : g.SameAudio t) :
    Keeps g.SameAudio (fun _ => True) m t := (h t).mono (fun _ => same.trans) fun _ => id

/-- What leaves aside all that is kept from scene to scene is silent. -/
theorem Aside.silent {m : Action τ α} (h : m.Aside fun _ => True) : m.Silent := fun g =>
  (h g).mono (fun _ => Game.Aside.sameAudio) fun _ => id

theorem silent_pure (a : α) : (pure a : Action τ α).Silent := fun g => .refl g

theorem silent_get : (get : Action τ (Game τ)).Silent := fun g => .refl g

theorem silent_state : (state : Action τ (State τ)).Silent := fun g => .refl g

theorem silent_modify {f : Game τ → Game τ} (same : ∀ g : Game τ, g.SameAudio (f g)) :
    (modify f : Action τ PUnit).Silent := same

theorem silent_change {f : State τ → State τ} (same : ∀ s, (f s).audio = s.audio) :
    (change f).Silent := fun g => ⟨rfl, same g.state⟩

theorem silent_log (level : LogLevel) (message : Text) :
    (log level message : Action τ Unit).Silent := fun _ => ⟨rfl, rfl⟩

theorem silent_logAll (records : List LogRecord) : (logAll records : Action τ Unit).Silent :=
  fun _ => ⟨rfl, rfl⟩

theorem silent_setMenu (menu : Option Menu) : (setMenu menu : Action τ Unit).Silent :=
  fun _ => ⟨rfl, rfl⟩

theorem silent_throw (e : Failure) : (throw e : Action τ α).Silent := fun g => ⟨.refl g, trivial⟩

theorem silent_fail (problem : PlayProblem) : (fail problem : Action τ α).Silent :=
  silent_throw _

theorem heard_push (g : Game τ) (r : AssetRequest) :
    ({ g with requests := g.requests.push r } : Game τ).heard = g.heard.hear r := by
  simp [Game.heard]

theorem Silent.ite {c : Prop} [Decidable c] {m n : Action τ α} (yes : m.Silent) (no : n.Silent) :
    (if c then m else n).Silent := by
  split
  · exact yes
  · exact no

/-- An action that looks at the game first. -/
theorem silent_of_get {f : Game τ → Action τ α}
    (silent : ∀ g, Keeps g.SameAudio (fun _ => True) (f g) g) : (get >>= f).Silent := fun g =>
  keeps_get.mpr (silent g)

/-! ### Small actions -/

theorem silent_submit (text : Option Text) : (submit text : Action τ Unit).Silent := by
  unfold submit
  refine silent_state.bind fun s => ?_
  split
  · exact silent_fail _
  · exact silent_change fun _ => rfl

theorem silent_scroll (delta : Float) : (scroll delta : Action τ Float).Silent := by
  unfold scroll
  exact silent_get.bind fun game => Silent.bind (silent_change fun _ => rfl) fun _ =>
    silent_state.bind fun _ => silent_pure _

theorem silent_saveTo [Clock τ] (path : Text) : (saveTo path : Action τ (Option Text)).Silent := by
  unfold saveTo
  refine Silent.bind (silent_get.bind fun _ => silent_pure _) fun data => ?_
  refine silent_of_get fun g => ?_
  rw [keeps_set_bind]
  refine Keeps.bind ((silent_logAll _).after ⟨rfl, rfl⟩) fun _ t same => ?_
  split
  · exact ⟨same, trivial⟩
  · exact same
  · exact Silent.after ((silent_log _ _).bind fun _ => silent_pure _) same

theorem silent_save [Clock τ] (slot : Option Text) : (save slot : Action τ (Option Text)).Silent := by
  unfold save slotFile
  exact Silent.bind (silent_get.bind fun _ => silent_pure _) fun _ => silent_saveTo _

theorem silent_questionEvent (question : Question) (event : Event) :
    (questionEvent question event : Action τ Unit).Silent := by
  unfold questionEvent
  simp only
  split
  · exact silent_change fun _ => rfl
  · exact silent_change fun _ => rfl
  · exact silent_submit _
  · exact silent_pure _

/-- Every command but those about music and echo and those that load. -/
theorem silent_execute [Clock τ] {command : Command} (other : command.isAudio = false)
    (stays : command.isLoad = false) : (execute command : Action τ Unit).Silent := by
  have plain {f : State τ → State τ} (same : ∀ s, (f s).audio = s.audio) : (change f).Silent :=
    silent_change same
  have turned {f : State τ → State τ} (same : ∀ s, (f s).audio = s.audio) :
      (do change f; let _ ← scroll 0.0 : Action τ Unit).Silent :=
    (plain same).bind fun _ => (silent_scroll _).bind fun _ => silent_pure _
  cases keeping : command.isKeeping with
  | false =>
    cases saving : command.isSaving with
    | false => exact (aside_execute keeping saving).loosen.silent
    | true =>
      unfold execute
      refine silent_get.bind fun game => ?_
      cases command with
      | save slot => exact (silent_save slot).bind fun _ => silent_pure _
      | load => cases stays
      | _ => cases saving
  | true =>
    unfold execute
    refine silent_get.bind fun game => ?_
    cases command with
    | music | echo | stopEcho | mute => cases other
    | setVariable name value =>
      simp only
      split
      · exact plain fun _ => rfl
      · exact silent_log _ _
    | addVariable | showMeter | hideMeter | updateMeter | clearMeters => exact plain fun _ => rfl
    | addItem | clearItems => exact turned fun _ => rfl
    | removeItem id amount =>
      refine turned fun s => ?_
      obtain ⟨inventory, same⟩ := s.takeItem_frame id amount
      rw [same]
      rfl
    | _ => cases keeping

end Action

/-! ## 3. Replaced states -/

/-- Nothing that is heard is dropped: the later one has music if there was some, and an echo that
nobody asks for is the one that there was. -/
def Heard.Continues (before after : Heard) : Prop :=
  (after.music = none → before.music = none) ∧
    (after.echo.filter (!·.isEmpty) = none → before.echo = after.echo)

instance (before after : Heard) : Decidable (before.Continues after) :=
  inferInstanceAs (Decidable ((after.music = none → before.music = none) ∧
    (after.echo.filter (!·.isEmpty) = none → before.echo = after.echo)))

/-- A game whose state may have been replaced by one whose music and echo are asked for. -/
def Game.Turns (g t : Game τ) : Prop :=
  g.SameAudio t ∨ t.heard = t.state.replay.foldl Heard.hear g.heard

theorem State.hear_replay (s : State τ) (h : Heard) :
    s.replay.foldl Heard.hear h =
      ⟨s.audio.music.or h.music, (s.audio.echo.filter (!·.isEmpty)).or h.echo⟩ := by
  rw [replay, audio, List.foldl_append]
  cases s.music <;> cases s.echo.filter (!·.isEmpty) <;> rfl

/-- After a replacement the state is told apart from what is heard exactly by what was dropped. -/
theorem Game.Turns.inTune_iff {g t : Game τ} (h : g.Turns t) (tuned : g.InTune) :
    t.InTune ↔ g.state.audio.Continues t.state.audio := by
  rcases h with same | asked
  · rw [same.inTune_iff, same.audio]
    exact ⟨fun _ => ⟨id, fun _ => rfl⟩, fun _ => tuned⟩
  · rw [InTune, asked, State.hear_replay, tuned, Heard.Continues]
    obtain ⟨music, echo⟩ := t.state.audio
    obtain ⟨oldMusic, oldEcho⟩ := g.state.audio
    simp only [Heard.mk.injEq]
    refine and_congr ?_ ?_
    · cases music <;> simp
    · rcases echo with _ | _ | ⟨u, rest⟩ <;> simp [Option.filter]

namespace Action

variable {α β : Type}

/-- An action that replaces the state at most once, and asks for the music and the echo of the new
one. -/
def Turning (m : Action τ α) : Prop := ∀ g : Game τ, Keeps g.Turns (fun _ => True) m g

theorem Silent.turning {m : Action τ α} (h : m.Silent) : m.Turning := fun g =>
  (h g).mono (fun _ => .inl) fun _ => id

theorem Turning.bind {m : Action τ α} {f : α → Action τ β} (first : m.Turning)
    (second : ∀ a, (f a).Silent) : (m >>= f).Turning := by
  intro g
  refine Keeps.bind (first g) fun a t turned => ((second a) t).mono (fun u same => ?_) fun _ => id
  rcases turned with level | asked
  · exact .inl (level.trans same)
  · exact .inr (by
      rw [same.heard, asked, State.hear_replay, State.hear_replay, same.audio])

theorem Silent.bindTurning {m : Action τ α} {f : α → Action τ β} (first : m.Silent)
    (second : ∀ a, (f a).Turning) : (m >>= f).Turning := by
  intro g
  have level : Ends m g (fun _ => g.SameAudio) (fun _ t => g.Turns t ∧ True) :=
    Ends.mono (first g) (fun _ _ => id) fun _ _ same => ⟨.inl same.1, trivial⟩
  refine Ends.bind level fun a t same => ((second a) t).mono (fun u turned => ?_) fun _ => id
  rcases turned with later | asked
  · exact .inl (same.trans later)
  · exact .inr (by rw [asked, same.heard])

theorem Turning.ite {c : Prop} [Decidable c] {m n : Action τ α} (yes : m.Turning) (no : n.Turning) :
    (if c then m else n).Turning := by
  split
  · exact yes
  · exact no

theorem turning_restart : (restart : Action τ Unit).Turning := by
  unfold restart
  refine aside_closeVideo.silent.bindTurning fun _ g => ?_
  right
  obtain ⟨characters, same⟩ := ({} : State τ).introduceAll_frame g.entry
  simp only [same]
  rfl

variable [Clock τ]

theorem turning_restore (data : Snapshot τ) : (restore data).Turning := by
  intro g
  unfold restore
  rw [keeps_get]
  refine keeps_savedProgram_bind ?_ (fun _ _ => trivial) ?_
  · rintro _ ⟨library, logs, rfl, -⟩
    exact .inl ⟨rfl, rfl⟩
  rintro found _ ⟨library, logs, rfl, -⟩ -
  cases found with
  | none => exact .inl ⟨rfl, rfl⟩
  | some program =>
    refine .ite (fun _ => .inl ⟨rfl, rfl⟩) fun _ => ?_
    rw [keeps_bind_ok (resumeFrom_eq _ data program)]
    right
    have closed : g.state.closing.foldl Heard.hear g.heard = g.heard := by
      rw [State.closing]
      cases g.state.video <;> rfl
    simp only [Game.heard, Array.foldl_append, List.foldl_toArray]
    rw [← Game.heard, closed]

theorem turning_loadFrom (path : Text) : (loadFrom path : Action τ Bool).Turning := by
  unfold loadFrom
  refine silent_get.bindTurning fun game => ?_
  simp only
  refine (silent_logAll _).bindTurning fun _ => ?_
  split
  · exact (silent_pure _).turning
  · exact turning_restore _

theorem turning_load (slot : Option Text) : (load slot : Action τ Bool).Turning := by
  unfold load slotFile
  exact Silent.bindTurning (silent_get.bind fun _ => silent_pure _) fun _ => turning_loadFrom _

omit [Clock τ] in
theorem silent_leaveAfterSave (menu : Menu) : (leaveAfterSave menu : Action τ Unit).Silent :=
  silent_setMenu _

theorem turning_takeMenuAction (name : Text) : (takeMenuAction name : Action τ Unit).Turning := by
  have saved (slot : Option Text) (menu : Menu) :
      (do if (← save slot).isSome then leaveAfterSave menu : Action τ Unit).Silent :=
    (silent_save slot).bind fun _ => .ite (silent_leaveAfterSave menu) (silent_pure _)
  unfold takeMenuAction
  refine silent_get.bindTurning fun game => ?_
  split
  · exact (silent_pure _).turning
  · simp only
    split
    · refine .ite (saved _ _).turning ?_
      exact (turning_load _).bind fun _ => .ite (silent_setMenu _) (silent_pure _)
    · exact turning_restart
    · exact (turning_load _).bind fun _ => .ite (silent_setMenu _) (silent_log _ _)
    · exact (silent_setMenu _).turning
    · exact (silent_setMenu _).turning
    · exact (silent_setMenu _).turning
    · exact (Silent.ite (silent_setMenu _) (silent_pure _)).turning
    · refine Silent.turning ?_
      exact silent_modify fun _ => ⟨rfl, rfl⟩
    · exact (saved _ _).turning
    · exact (turning_load _).bind fun _ => .ite (silent_setMenu _) (silent_pure _)
    · exact (silent_log _ _).turning

theorem turning_takeMenuEntry (menu : Menu) (pick : Ordinal) :
    (takeMenuEntry menu pick : Action τ Unit).Turning := by
  unfold takeMenuEntry
  refine silent_get.bindTurning fun game => ?_
  split
  · exact turning_takeMenuAction _
  · exact (silent_pure _).turning

theorem turning_menuEvent (menu : Menu) (event : Event) :
    (menuEvent menu event : Action τ Unit).Turning := by
  unfold menuEvent
  refine silent_get.bindTurning fun game => ?_
  simp only
  split
  · exact .ite ((silent_setMenu _).bindTurning fun _ => turning_takeMenuEntry _ _)
      (silent_pure _).turning
  · exact (silent_setMenu _).turning
  · exact (silent_setMenu _).turning
  · exact turning_takeMenuEntry _ _
  · exact .ite (turning_takeMenuAction _) (Silent.ite (silent_setMenu _) (silent_pure _)).turning
  · exact .ite (turning_takeMenuAction _) (Silent.ite (silent_setMenu _) (silent_pure _)).turning
  · exact (silent_pure _).turning

theorem turning_storyKey (key : Key) : (storyKey key : Action τ Unit).Turning := by
  have done {α : Type} {m : Action τ α} (h : m.Silent) : (do let _ ← m : Action τ Unit).Turning :=
    (h.bind fun _ => silent_pure _).turning
  unfold storyKey
  split
  · exact done aside_openPauseMenu.silent
  · exact done (silent_save none)
  · exact (turning_load none).bind fun _ => silent_pure _
  · exact (silent_get.bind fun _ => .ite aside_toggleInventory.silent (silent_pure _)).turning
  · exact done (silent_scroll _)
  · exact done (silent_scroll _)
  · exact Silent.turning <| silent_change fun _ => rfl
  · exact Silent.turning <| silent_change fun _ => rfl
  · exact Silent.turning <| silent_change fun _ => rfl
  · exact (silent_pure _).turning
  · exact (silent_pure _).turning
  · exact (silent_pure _).turning

/-- One event replaces the state at most once. -/
theorem turning_handle (event : Event) : (handle event : Action τ Unit).Turning := by
  unfold handle
  refine silent_get.bindTurning fun game => ?_
  split
  · exact turning_menuEvent _ _
  · refine .ite (aside_mapEvent _).silent.turning ?_
    split
    · exact (aside_choiceEvent _ _).silent.turning
    · exact (silent_questionEvent _ _).turning
    · refine .ite (aside_phoneEvent _).silent.turning ?_
      split
      · exact (aside_click _).loosen.silent.turning
      · exact turning_storyKey _
      · exact (silent_pure _).turning

end Action

/-! ## 4. Commands and runs -/

/-- What holds of the game that the first of two actions leaves, and is kept by the second. -/
theorem Action.left_bind {α β : Type} {P : Game τ → Prop} {m : Action τ α} {f : α → Action τ β}
    {g : Game τ} (first : P (m.left g))
    (second : ∀ a t, m g = .ok a t → P t → P ((f a).left t)) : P ((m >>= f).left g) := by
  unfold left at first second ⊢
  cases done : m g with
  | ok a t =>
    rw [done] at first
    rw [run_bind_ok done]
    exact second a t done first
  | error e t =>
    rw [done] at first
    rw [run_bind_error done]
    exact first

theorem Action.Silent.inTune {α : Type} {m : Action τ α} (h : m.Silent) {g : Game τ}
    (tuned : g.InTune) : (m.left g).InTune := (h g).left.inTune_iff.mpr tuned

/-- What holds of the game after an action that succeeds. -/
def Action.Then {α : Type} (m : Action τ α) (Q : Game τ → Prop) (g : Game τ) : Prop :=
  match m g with
  | .ok _ t => Q t
  | .error _ _ => True

theorem Action.Then.of_ok {α : Type} {m : Action τ α} {Q : Game τ → Prop} {g t : Game τ} {a : α}
    (h : m.Then Q g) (done : m g = .ok a t) : Q t := by
  unfold Then at h
  rw [done] at h
  exact h

variable [Clock τ]

/-- Muting takes from the state what it asks to mute. -/
theorem Action.run_mute (target : Text) (g : Game τ) :
    execute (.mute target) g = .ok () { g with
      requests := g.requests.push (.mute target)
      state := { g.state with
        music :=
          if target = Text.ofString "all" ∨ target = Text.ofString "music" then none
          else g.state.music
        echo :=
          if target = Text.ofString "all" ∨ target = Text.ofString "echo" then none
          else g.state.echo } } := by
  have read : (get : Action τ (Game τ)) g = .ok g g := rfl
  unfold execute
  rw [run_bind_ok read]
  by_cases all : target = Text.ofString "all"
  · simp only [all, decide_true, Bool.true_or, if_true, true_or]
    rfl
  · by_cases music : target = Text.ofString "music"
    · simp only [music, decide_true, Bool.or_true, if_true, or_true]
      rfl
    · by_cases echo : target = Text.ofString "echo"
      · simp only [echo, decide_true, Bool.or_true, if_true, or_true]
        rfl
      · simp only [all, echo, music, decide_false, Bool.or_false, or_false, if_false,
          Bool.false_eq_true]
        rfl

/-- The commands about music and echo tell the state what they ask for. -/
theorem Action.inTune_execute {command : Command} (own : command.isAudio = true) {g : Game τ}
    (tuned : g.InTune) : ((execute command).left g).InTune := by
  cases command with
  | music channel path loop =>
    change Game.heard { g with requests := g.requests.push (.playMusic path loop) } = _
    rw [heard_push, tuned]
    rfl
  | echo path =>
    change Game.heard { g with requests := g.requests.push (.playEcho path) } = _
    rw [heard_push, tuned]
    rfl
  | stopEcho =>
    change Game.heard { g with requests := g.requests.push .stopEcho } = _
    rw [heard_push, tuned]
    rfl
  | mute target =>
    rw [left, run_mute]
    change Game.heard { g with requests := g.requests.push (.mute target) } = _
    rw [heard_push, tuned]
    simp only [Heard.hear, State.audio]
    congr 1
    split <;> rfl
  | _ => cases own

/-- Whether the next command of a game loads. -/
def Game.loadsNext (g : Game τ) : Bool :=
  (g.program.commandAt? g.state.index).any Command.isLoad

/-- A command that loads may drop something that is heard; no other command does. -/
theorem Action.inTune_step {g : Game τ} (tuned : g.InTune)
    (tended : g.loadsNext = true → g.state.audio.Continues (step.left g).state.audio) :
    (step.left g).InTune := by
  have moved : g.SameAudio { g with state := { g.state with index := g.state.index.next } } :=
    ⟨rfl, rfl⟩
  have read : (get : Action τ (Game τ)) g = .ok g g := rfl
  cases found : g.program.commandAt? g.state.index with
  | none =>
    have done : step.left g = { g with state := { g.state with index := g.state.index.next } } := by
      unfold step left
      rw [run_bind_ok read]
      simp only [found]
      rfl
    rw [done, moved.inTune_iff]
    exact tuned
  | some command =>
    have done : step.left g = (execute command).left
        { g with state := { g.state with index := g.state.index.next } } := by
      unfold step left
      rw [run_bind_ok read]
      simp only [found]
      rfl
    rw [done] at tended ⊢
    rw [← moved.inTune_iff] at tuned
    cases audio : command.isAudio with
    | true => exact inTune_execute audio tuned
    | false =>
      cases load : command.isLoad with
      | false =>
        have same := (silent_execute audio load { g with
          state := { g.state with index := g.state.index.next } }).left
        exact same.inTune_iff.mpr tuned
      | true =>
        have loads : g.loadsNext = true := by
          rw [Game.loadsNext, found]
          exact load
        cases command with
        | load slot =>
          have turning : (execute (.load slot) : Action τ Unit).Turning := by
            unfold execute
            exact silent_get.bindTurning fun _ => (turning_load slot).bind fun _ => silent_pure _
          exact ((turning _).left.inTune_iff tuned).mpr (tended loads)
        | _ => cases load

/-- No load among at most so many commands of a run drops anything. -/
def Game.RunTends : Nat → Game τ → Prop
  | 0, _ => True
  | limit + 1, g =>
    g.status = .running →
      (g.loadsNext = true → g.state.audio.Continues (Action.step.left g).state.audio) ∧
        Action.step.Then (RunTends limit) g

theorem Action.inTune_runAtMost {limit : Nat} {g : Game τ} (tuned : g.InTune)
    (tended : g.RunTends limit) : ((runAtMost limit).left g).InTune := by
  induction limit generalizing g with
  | zero => exact tuned
  | succ limit ih =>
    refine left_bind (m := status) tuned ?_
    rintro _ _ ⟨⟩ -
    by_cases running : g.status = .running
    · obtain ⟨kept, rest⟩ := tended running
      rw [if_neg (by simpa using running)]
      refine left_bind (inTune_step tuned kept) fun _ t done after => ?_
      exact ih after (rest.of_ok done)
    · rw [if_pos running]
      exact tuned

/-! ## 5. Events and frames -/

/-- No event drops anything that is heard. -/
def Game.EventsTend : List Event → Game τ → Prop
  | [], _ => True
  | event :: rest, g =>
    g.state.audio.Continues ((Action.handle event).left g).state.audio ∧
      (Action.handle event).Then (EventsTend rest) g

theorem Action.inTune_events {events : List Event} {g : Game τ} (tuned : g.InTune)
    (tended : g.EventsTend events) : ((events.forM handle).left g).InTune := by
  induction events generalizing g with
  | nil => exact tuned
  | cons event rest ih =>
    obtain ⟨kept, later⟩ := tended
    have after := ((turning_handle event g).left.inTune_iff tuned).mpr kept
    exact left_bind after fun _ t done handled => ih handled (later.of_ok done)

/-- Neither an event of a frame nor a command of its run drops anything that is heard. -/
def Game.FrameTends (events : List Event) (now : τ) (g : Game τ) : Prop :=
  ({ g with now } : Game τ).EventsTend events ∧
    (events.forM Action.handle : Action τ PUnit).Then (Action.checkTimeout.Then fun t =>
      (t.menu.isSome || t.state.isOverlaid) = false →
        Action.passTime.Then (RunTends commandLimit) t) { g with now }

theorem Action.inTune_frame {events : List Event} {now : τ} {g : Game τ} (tuned : g.InTune)
    (tended : g.FrameTends events now) : ((frame events now).left g).InTune := by
  obtain ⟨kept, later⟩ := tended
  have clocked : ({ g with now } : Game τ).InTune := tuned
  unfold frame
  refine left_bind clocked ?_
  rintro _ _ ⟨⟩ -
  refine left_bind (inTune_events clocked kept) fun _ t handled tuned => ?_
  refine left_bind (aside_checkTimeout.silent.inTune tuned) fun _ u timed tuned => ?_
  have later := (later.of_ok handled).of_ok timed
  refine left_bind (m := get) tuned ?_
  rintro _ _ ⟨⟩ -
  by_cases overlaid : (u.menu.isSome || u.state.isOverlaid) = true
  · rw [if_pos overlaid]
    exact tuned
  · rw [if_neg overlaid]
    refine left_bind (aside_passTime.silent.inTune tuned) fun _ v passed tuned => ?_
    exact inTune_runAtMost tuned ((later (by simpa using overlaid)).of_ok passed)

/-! ## 6. Sessions -/

namespace Operation

theorem turning_action {op : Operation τ} (framed : ∀ events now, op ≠ .frame events now)
    (runs : op ≠ .run) : op.action.Turning := by
  have only {α : Type} {m : Action τ α} (h : m.Turning) :
      (do let _ ← m : Action τ Unit).Turning := h.bind fun _ => Action.silent_pure _
  cases op with
  | frame events now => exact absurd rfl (framed events now)
  | run => exact absurd rfl runs
  | jump target => exact (Action.aside_jump target).loosen.silent.turning
  | choose pick => exact (Action.aside_choose pick).silent.turning
  | submit text => exact (Action.silent_submit text).turning
  | advance => exact only Action.aside_advance.silent.turning
  | toggleInventory => exact Action.aside_toggleInventory.silent.turning
  | scroll delta => exact only (Action.silent_scroll delta).turning
  | openPauseMenu => exact only Action.aside_openPauseMenu.silent.turning
  | takeMenuAction name => exact Action.turning_takeMenuAction name
  | setMenu menu => exact (Action.silent_setMenu menu).turning
  | restart => exact Action.turning_restart
  | save slot => exact only (Action.silent_save slot).turning
  | load slot => exact only (Action.turning_load slot)
  | restore data => exact only (Action.turning_restore data)
  | setVoice playing =>
    exact Action.Silent.turning <| Action.silent_modify fun _ => ⟨rfl, rfl⟩
  | close => exact Action.aside_closeVideo.silent.turning

/-- An operation drops nothing that is heard. -/
def Tends (op : Operation τ) (g : Game τ) : Prop :=
  match op with
  | .frame events now => g.FrameTends events now
  | .run => g.RunTends commandLimit
  | op => g.state.audio.Continues (op.after g).state.audio

/-- Apart from frames and runs, the condition is exact. -/
theorem inTune_after_iff {op : Operation τ} (framed : ∀ events now, op ≠ .frame events now)
    (runs : op ≠ .run) {g : Game τ} (tuned : g.InTune) :
    (op.after g).InTune ↔ g.state.audio.Continues (op.after g).state.audio := by
  rw [after_eq_left]
  exact (turning_action framed runs g).left.inTune_iff tuned

theorem inTune_after {op : Operation τ} {g : Game τ} (tuned : g.InTune) (tended : op.Tends g) :
    (op.after g).InTune := by
  cases op with
  | frame events now =>
    rw [after_eq_left]
    exact Action.left_bind (Action.inTune_frame tuned tended) fun _ _ _ tuned => tuned
  | run =>
    rw [after_eq_left]
    exact Action.left_bind (Action.inTune_runAtMost tuned tended) fun _ _ _ tuned => tuned
  | _ => exact (inTune_after_iff (by rintro _ _ ⟨⟩) (by rintro ⟨⟩) tuned).mpr tended

end Operation

/-- The games that a session comes to in which no operation drops anything that is heard. -/
inductive Game.Tended (start : Game τ) : Game τ → Prop
  | start : Tended start start
  | act {g : Game τ} (before : Tended start g) {op : Operation τ} (tends : op.Tends g) :
      Tended start (op.after g)

/-- What is heard is what the state knows, in every game that a session comes to without dropping
anything that is heard. -/
theorem heard_eq_audio {setup : Setup τ} {library : Library} {files : FileTree}
    {program : Program} {g : Game τ}
    (session : (Game.start setup library files program).Tended g) :
    g.heard = g.state.audio := by
  induction session with
  | start =>
    obtain ⟨characters, same⟩ := ({} : State τ).introduceAll_frame program
    simp only [Game.start, same]
    rfl
  | act before tends tuned => exact Operation.inTune_after tuned tends

/-! ### Sessions to look at -/

instance Action.decidableThen {α : Type} {m : Action τ α} {Q : Game τ → Prop}
    [∀ t, Decidable (Q t)] (g : Game τ) : Decidable (m.Then Q g) :=
  match done : m g with
  | .ok _ t => decidable_of_iff (Q t) (by simp [Then, done])
  | .error _ _ => isTrue (by simp [Then, done])

instance Game.decidableRunTends : (limit : Nat) → (g : Game τ) → Decidable (g.RunTends limit)
  | 0, _ => isTrue trivial
  | limit + 1, g =>
    have (t : Game τ) : Decidable (t.RunTends limit) := decidableRunTends limit t
    inferInstanceAs (Decidable (g.status = .running →
      (g.loadsNext = true → g.state.audio.Continues (Action.step.left g).state.audio) ∧
        Action.step.Then (RunTends limit) g))

/-- A story with music. -/
def themeStory : Program :=
  { script := "/game/main.vn"
    commands := #[.music "music" "theme.ogg" true, .say none "Hello."]
    labels := {} }

/-- A new game of the story, before its music. -/
def themeGame : Game Float :=
  gameIn (soloFiles "play music \"theme.ogg\"; \"Hello.\";") themeStory

/-- A new game in silence, its music, and its music again from a snapshot. -/
theorem heard_eq_audio_theme :
    ∃ g : Game Float, themeGame.Tended g ∧ g.heard = g.state.audio ∧
      g.heard = ⟨some (Text.ofString "theme.ogg", true), none⟩ := by
  have begun : Operation.restart.Tends themeGame := by
    change Heard.Continues _ _
    decide
  have runs : (Operation.restart.after themeGame).RunTends commandLimit := by decide
  have played : themeGame.Tended (Operation.run.after (Operation.restart.after themeGame)) :=
    (Game.Tended.start.act begun).act (show Operation.Tends .run _ from runs)
  have again : (Operation.restore
      (Operation.run.after (Operation.restart.after themeGame)).snapshot).Tends
      (Operation.run.after (Operation.restart.after themeGame)) := by
    change Heard.Continues _ _
    decide
  exact ⟨_, played.act again, heard_eq_audio (played.act again), by decide⟩

/-- A new game drops the music: it is heard, and the state knows none. -/
theorem music_outlives_restart :
    let g := Operation.restart.after (Operation.run.after themeGame)
    g.heard = ⟨some (Text.ofString "theme.ogg", true), none⟩ ∧ g.state.audio = ⟨none, none⟩ := by
  decide

end VisualNovel
