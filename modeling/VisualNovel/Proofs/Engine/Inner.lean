import VisualNovel.Proofs.Engine.Aside

/-!
Actions inside the story.

What a story does by itself, with its commands and as time passes, and what the player does to it,
stays inside it (`Action.Inner`): such an action changes the state and the program, uses the library
and the files, asks for assets and logs. It leaves the menu, the wish to leave, the clock and what
else stands around the story alone, whether it succeeds or fails.
-/

namespace VisualNovel

variable {τ : Type}

/-! ## 1. Around the story -/

/-- What stands around the story is the same in two games. -/
def Game.SameAbout (g t : Game τ) : Prop :=
  ∃ program state library files requests logs,
    t = { g with program, state, library, files, requests, logs }

namespace Game.SameAbout

variable {g t u : Game τ}

theorem refl (g : Game τ) : g.SameAbout g := ⟨_, _, _, _, _, _, rfl⟩

theorem trans (h : g.SameAbout t) (h' : t.SameAbout u) : g.SameAbout u := by
  obtain ⟨_, _, _, _, _, _, rfl⟩ := h
  obtain ⟨_, _, _, _, _, _, rfl⟩ := h'
  exact ⟨_, _, _, _, _, _, rfl⟩

theorem menu (h : g.SameAbout t) : t.menu = g.menu := by
  obtain ⟨_, _, _, _, _, _, rfl⟩ := h
  rfl

theorem setup (h : g.SameAbout t) : t.setup = g.setup := by
  obtain ⟨_, _, _, _, _, _, rfl⟩ := h
  rfl

theorem now (h : g.SameAbout t) : t.now = g.now := by
  obtain ⟨_, _, _, _, _, _, rfl⟩ := h
  rfl

end Game.SameAbout

namespace Action

variable {α β : Type}

/-- An action inside the story. -/
def Inner (m : Action τ α) : Prop := ∀ g : Game τ, Keeps g.SameAbout (fun _ => True) m g

theorem Inner.after {m : Action τ α} (h : m.Inner) {g t : Game τ} (same : g.SameAbout t) :
    Keeps g.SameAbout (fun _ => True) m t := (h t).mono (fun _ => same.trans) fun _ => id

theorem Inner.bind {m : Action τ α} {f : α → Action τ β} (first : m.Inner)
    (second : ∀ a, (f a).Inner) : (m >>= f).Inner := fun g =>
  Keeps.bind (first g) fun a _ same => (second a).after same

theorem Inner.ite {c : Prop} [Decidable c] {m n : Action τ α} (yes : m.Inner) (no : n.Inner) :
    (if c then m else n).Inner := by
  split
  · exact yes
  · exact no

/-- What an action gives back does not matter. -/
theorem Inner.only {m : Action τ α} (h : m.Inner) : (do let _ ← m : Action τ Unit).Inner :=
  h.bind fun _ g => .refl g

theorem inner_pure (a : α) : (pure a : Action τ α).Inner := fun g => .refl g

theorem inner_get : (get : Action τ (Game τ)).Inner := fun g => .refl g

theorem inner_state : (state : Action τ (State τ)).Inner := fun g => .refl g

theorem inner_throw (e : Failure) : (throw e : Action τ α).Inner := fun g => ⟨.refl g, trivial⟩

theorem inner_fail (problem : PlayProblem) : (fail problem : Action τ α).Inner := inner_throw _

theorem inner_modify {f : Game τ → Game τ} (same : ∀ g : Game τ, g.SameAbout (f g)) :
    (modify f : Action τ PUnit).Inner := same

theorem inner_change (f : State τ → State τ) : (change f).Inner :=
  fun _ => ⟨_, _, _, _, _, _, rfl⟩

theorem inner_request (r : AssetRequest) : (request r : Action τ Unit).Inner :=
  fun _ => ⟨_, _, _, _, _, _, rfl⟩

theorem inner_log (level : LogLevel) (message : Text) : (log level message : Action τ Unit).Inner :=
  fun _ => ⟨_, _, _, _, _, _, rfl⟩

theorem inner_logAll (records : List LogRecord) : (logAll records : Action τ Unit).Inner :=
  fun _ => ⟨_, _, _, _, _, _, rfl⟩

/-- A step that may be left out. -/
theorem inner_if {c : Prop} [Decidable c] {m : Action τ Unit} (h : m.Inner) :
    (if c then m else pure ()).Inner := h.ite (inner_pure _)

theorem inner_toggleInventory : (toggleInventory : Action τ Unit).Inner := inner_change _

/-! ## 2. Small actions -/

theorem inner_closeVideo : (closeVideo : Action τ Unit).Inner := fun g =>
  keeps_of_ok (closeVideo_eq g) ⟨_, _, _, _, _, _, rfl⟩

theorem inner_jump (target : Text) : (jump target : Action τ Unit).Inner := by
  unfold jump
  refine inner_get.bind fun game => .ite (inner_if inner_toggleInventory) ?_
  split
  · exact inner_change _
  · exact (inner_log _ _).bind fun _ => inner_fail _

theorem inner_choose (pick : Ordinal) : (choose pick : Action τ Unit).Inner := by
  unfold choose
  refine inner_state.bind fun s => ?_
  split
  · split
    · exact inner_fail _
    · exact (inner_change _).bind fun _ => inner_jump _
  · refine .ite ?_ (inner_fail _)
    split
    · exact inner_fail _
    · exact (inner_change _).bind fun _ => inner_jump _

theorem inner_submit (text : Option Text) : (submit text : Action τ Unit).Inner := by
  unfold submit
  refine inner_state.bind fun s => ?_
  split
  · exact inner_fail _
  · exact inner_change _

theorem inner_advance : (advance : Action τ Bool).Inner :=
  inner_state.bind fun _ => (inner_change _).bind fun _ => inner_pure _

theorem inner_scroll (delta : Float) : (scroll delta : Action τ Float).Inner :=
  inner_get.bind fun _ => (inner_change _).bind fun _ => inner_state.bind fun _ => inner_pure _

/-! ## 3. Saving and loading -/

theorem inner_restore [Clock τ] (data : Snapshot τ) : (restore data).Inner := by
  unfold restore
  refine inner_get.bind fun game => Inner.bind (fun g => ?_) fun found => ?_
  · refine Ends.mono (ends_savedProgram g _) ?_ ?_
    · rintro found _ ⟨⟨library, logs, rfl, -⟩, -⟩
      exact ⟨_, _, _, _, _, _, rfl⟩
    · rintro e _ ⟨⟨library, logs, rfl, -⟩, -⟩
      exact ⟨⟨_, _, _, _, _, _, rfl⟩, trivial⟩
  · split
    · exact inner_pure _
    · refine .ite ((inner_log _ _).bind fun _ => inner_pure _) ?_
      exact Inner.bind (fun g => keeps_of_ok (resumeFrom_eq g data _) ⟨_, _, _, _, _, _, rfl⟩)
        fun _ => inner_pure _

theorem inner_load [Clock τ] (slot : Option Text) : (load slot : Action τ Bool).Inner := by
  unfold load slotFile loadFrom
  refine Inner.bind (inner_get.bind fun _ => inner_pure _) fun path => inner_get.bind fun game => ?_
  split
  refine (inner_logAll _).bind fun _ => ?_
  split
  · exact inner_pure _
  · exact inner_restore _

theorem inner_save [Clock τ] (slot : Option Text) : (save slot : Action τ (Option Text)).Inner := by
  unfold save slotFile saveTo
  refine Inner.bind (inner_get.bind fun _ => inner_pure _) fun path => ?_
  refine Inner.bind (inner_get.bind fun _ => inner_pure _) fun data => fun g => ?_
  rw [keeps_get]
  simp only
  rw [keeps_set_bind]
  refine Inner.after (Inner.bind (inner_logAll _) fun _ => ?_) ⟨_, _, _, _, _, _, rfl⟩
  split
  · exact inner_throw _
  · exact inner_pure _
  · exact (inner_log _ _).bind fun _ => inner_pure _

/-! ## 4. What the player does to the story -/

theorem inner_mapEvent (event : Event) : (mapEvent event : Action τ Unit).Inner := by
  unfold mapEvent
  refine inner_get.bind fun game => ?_
  split
  · exact inner_change _
  · exact inner_if (inner_choose _)
  · split
    · exact (inner_change _).bind fun _ => inner_jump _
    · exact inner_pure _
  · exact inner_pure _

theorem inner_choiceEvent (choice : Choice τ) (event : Event) :
    (choiceEvent choice event).Inner := by
  unfold choiceEvent
  split
  · exact .ite (inner_choose _) (inner_log _ _)
  · exact inner_change _
  · exact inner_change _
  · exact inner_choose _
  · exact inner_pure _

theorem inner_questionEvent (question : Question) (event : Event) :
    (questionEvent question event : Action τ Unit).Inner := by
  unfold questionEvent
  simp only
  split
  · exact inner_change _
  · exact inner_change _
  · exact inner_submit _
  · exact inner_pure _

theorem inner_phoneEvent (event : Event) : (phoneEvent event : Action τ Unit).Inner := by
  unfold phoneEvent
  split <;> first | exact inner_change _ | exact inner_pure _

theorem inner_follow (target : Text) : (follow target : Action τ Unit).Inner := by
  unfold follow
  split
  · exact (inner_change _).bind fun _ => inner_jump _
  · exact inner_jump _

theorem inner_click (point : Point) : (click point : Action τ Unit).Inner := by
  unfold click
  refine inner_get.bind fun game => ?_
  split
  · exact inner_follow _
  · refine .ite (inner_change _) ?_
    split
    · exact inner_follow _
    · exact inner_pure _

/-! ## 5. Commands -/

theorem inner_showSprite (spec : SpriteSpec) : (showSprite spec : Action τ Unit).Inner := by
  unfold showSprite
  refine inner_get.bind fun game => ?_
  simp only
  split
  · exact (inner_request _).bind fun _ => (inner_pure _).bind fun _ => inner_change _
  · exact (inner_request _).bind fun _ => (inner_pure _).bind fun _ => inner_change _

theorem inner_showCharacter (spec : CharacterShow) :
    (showCharacter spec : Action τ Unit).Inner := by
  unfold showCharacter
  refine inner_get.bind fun game => ?_
  split
  · exact inner_log _ _
  · split
    · exact inner_log _ _
    · exact (inner_request _).bind fun _ => inner_change _

theorem inner_animate (name : Text) (goal : AnimationGoal) (seconds : Float) (ease : Ease) :
    (animate name goal seconds ease : Action τ Unit).Inner := by
  unfold animate
  refine inner_get.bind fun game => ?_
  split
  · exact inner_log _ _
  · exact inner_change _

theorem inner_clearCache (target : CacheTarget) : (clearCache target : Action τ Unit).Inner := by
  have library : ∀ f : Library → Library,
      (modify fun game => { game with library := f game.library } : Action τ PUnit).Inner :=
    fun f => inner_modify fun _ => ⟨_, _, _, _, _, _, rfl⟩
  unfold clearCache
  split
  · exact inner_request _
  · exact library _
  · refine inner_get.bind fun game => Inner.bind (library fun old => old.evict _) fun _ => ?_
    exact inner_if (inner_change _)
  · refine (library _).bind fun _ => (inner_change _).bind fun _ => ?_
    exact inner_closeVideo.bind fun _ => inner_change _

theorem inner_watch (player : VideoPlayer τ) (playback : Playback τ) :
    (watch player playback).Inner :=
  (inner_request _).bind fun _ => inner_get.bind fun _ => inner_pure _

theorem inner_playVideo (path : Text) (loop : Bool) (fit : VideoFit) :
    (playVideo path loop fit : Action τ Unit).Inner := by
  unfold playVideo
  refine inner_closeVideo.bind fun _ => inner_get.bind fun game => ?_
  split
  · exact inner_log _ _
  · refine (inner_request _).bind fun _ => (inner_watch _ _).bind fun _ => ?_
    exact (inner_change _).bind fun _ => inner_if inner_closeVideo

theorem inner_updateVideo : (updateVideo : Action τ Unit).Inner := by
  unfold updateVideo
  refine inner_get.bind fun game => ?_
  split
  · refine (inner_watch _ _).bind fun _ => ?_
    exact (inner_change _).bind fun _ => inner_if inner_closeVideo
  · exact inner_pure _

theorem inner_callScript (path label : Text) : (callScript path label : Action τ Unit).Inner := by
  intro g
  unfold callScript
  rw [keeps_get]
  simp only
  rw [keeps_set_bind]
  refine Inner.after (Inner.bind (inner_logAll _) fun _ => ?_) ⟨_, _, _, _, _, _, rfl⟩
  split
  · exact inner_throw _
  · refine Inner.bind (inner_modify fun _ => ⟨_, _, _, _, _, _, rfl⟩) fun _ => ?_
    exact (inner_change _).bind fun _ => inner_jump label

/-- Every command stays inside the story. -/
theorem inner_execute [Clock τ] (command : Command) : (execute command : Action τ Unit).Inner := by
  have asked : ∀ (f : State τ → State τ) r, (do change f; request r : Action τ Unit).Inner :=
    fun f r => (inner_change f).bind fun _ => inner_request r
  have turned : ∀ f : State τ → State τ, (do change f; let _ ← scroll 0.0 : Action τ Unit).Inner :=
    fun f => (inner_change f).bind fun _ => (inner_scroll _).only
  unfold execute
  refine inner_get.bind fun game => ?_
  cases command with
  | label => exact inner_pure _
  | say | choice | camera | notify | blend | beginLoading | endLoading | define | input |
    openPhone | closePhone | mapPoint | hideMap | hotspot | debugHotspots | addVariable | showMeter |
    hideMeter | updateMeter | clearMeters => exact inner_change _
  | jump target => exact inner_jump target
  | scene => exact .ite ((inner_request _).bind fun _ => inner_change _) (inner_change _)
  | «show» sprite => exact inner_showSprite sprite
  | showCharacter appearance => exact inner_showCharacter appearance
  | hide => exact inner_get.bind fun _ => .ite (inner_change _) (inner_log _ _)
  | animate name goal seconds ease => exact inner_animate name goal seconds ease
  | stopAnimation name => cases name <;> exact inner_change _
  | music | echo | stopEcho => exact asked _ _
  | sound | voice | preload | pin | unpin => exact inner_request _
  | mute =>
    have echo : ∀ {c : Prop} [Decidable c],
        (if c then change fun s => { s with echo := none } else pure () : Action τ Unit).Inner :=
      inner_if (inner_change _)
    exact (inner_request _).bind fun _ => .ite ((inner_change _).bind fun _ => echo) echo
  | clearCache target => exact inner_clearCache target
  | collect => exact inner_get.bind fun _ => (inner_request _).bind fun _ => inner_request _
  | wait | waitVoice | waitVideo => exact inner_if (inner_change _)
  | save slot => exact (inner_save slot).only
  | load slot => exact (inner_load slot).only
  | setVariable =>
    simp only
    split
    · exact inner_change _
    · exact inner_log _ _
  | jumpIf name op value target => exact inner_if (inner_jump target)
  | call path resolved label => exact inner_callScript resolved label
  | phoneMessage =>
    exact .ite ((inner_log _ _).bind fun _ => inner_change _) (inner_change _)
  | addItem | removeItem | clearItems => exact turned _
  | showMap image => exact inner_get.bind fun _ => inner_change _
  | playVideo path loop fit => exact inner_playVideo path loop fit
  | stopVideo => exact inner_closeVideo
  | removeHotspot name | removeButton name => cases name <;> exact inner_change _
  | button => exact .ite (inner_change _) (inner_log _ _)

/-! ## 6. Frames -/

variable [Clock τ]

theorem inner_checkTimeout : (checkTimeout : Action τ Unit).Inner := by
  unfold checkTimeout
  refine inner_get.bind fun game => ?_
  split
  · split
    · exact inner_pure _
    · exact .ite (inner_pure _) ((inner_log _ _).bind fun _ => inner_choose _)
  · exact inner_pure _

theorem inner_passTime : (passTime : Action τ Unit).Inner := by
  unfold passTime
  refine inner_get.bind fun game => (inner_change _).bind fun _ => ?_
  exact inner_updateVideo.bind fun _ => inner_state.bind fun s => inner_if (inner_change _)

theorem inner_step : (step : Action τ Unit).Inner := by
  unfold step
  refine inner_get.bind fun game => (inner_change _).bind fun _ => ?_
  split
  · exact inner_execute _
  · exact inner_throw _

/-- A run stays inside the story. -/
theorem inner_runAtMost (limit : Nat) : (runAtMost limit : Action τ Status).Inner := by
  induction limit with
  | zero => exact inner_fail _
  | succ limit ih =>
    have read : (status : Action τ Status).Inner := fun g => .refl g
    rw [runAtMost]
    exact read.bind fun _ => .ite (inner_pure _) (inner_step.bind fun _ => ih)

end Action
end VisualNovel
