import VisualNovel.Proofs.Engine.Change
import VisualNovel.Proofs.Script.Includes

/-!
What actions leave aside.

A game keeps some things from scene to scene: its variables and the meters that show them, the
inventory and the page that is open, the music and the echo, and its files (`Game.Aside`). Most actions
are about something else and leave all of them aside, whether they succeed or fail (`Action.Aside`): all
commands but those that are about these things, that save or that load (`aside_execute`), the
player's clicks, and the passing of time. They also fail only in common ways (`Failure.Common`).
Only a run can do too many commands, and only an option that is taken can be missing.
-/

namespace VisualNovel

variable {τ : Type}

/-! ## 1. What is kept from scene to scene -/

/-- What a state keeps from scene to scene. -/
structure Store where
  vars : Variables := {}
  meters : Table Meter := {}
  inventory : Table Item := {}
  inventoryPage : Float := 0.0
  music : Option Music := none
  echo : Option Text := none

/-- The store of a state. -/
def State.store (s : State τ) : Store :=
  ⟨s.vars, s.meters, s.inventory, s.inventoryPage, s.music, s.echo⟩

/-- Requests about music and echo, which play on. -/
def AssetRequest.playsOn : AssetRequest → Bool
  | .playMusic .. | .playEcho _ | .stopEcho | .mute _ => true
  | _ => false

/-- The requests of a game about what plays on. -/
def Game.asked (g : Game τ) : List AssetRequest := g.requests.toList.filter (·.playsOn)

/-- What a game keeps from scene to scene is the same in two games. -/
structure Game.Aside (g t : Game τ) : Prop where
  setup : t.setup = g.setup
  files : t.files = g.files
  store : t.state.store = g.state.store
  asked : t.asked = g.asked

theorem Game.Aside.refl (g : Game τ) : g.Aside g := ⟨rfl, rfl, rfl, rfl⟩

theorem Game.Aside.trans {g t u : Game τ} (h : g.Aside t) (h' : t.Aside u) : g.Aside u :=
  ⟨h'.setup.trans h.setup, h'.files.trans h.files, h'.store.trans h.store, h'.asked.trans h.asked⟩

theorem State.store_introduceAll (s : State τ) (program : Program) :
    (s.introduceAll program).store = s.store := by
  obtain ⟨characters, same⟩ := s.introduceAll_frame program
  rw [same]
  rfl

theorem State.store_hideSprite (s : State τ) (name : Text) (transition : Option (Transition τ)) :
    (s.hideSprite name transition).store = s.store := by
  obtain ⟨sprites, tracks, same⟩ := s.hideSprite_frame name transition
  rw [same]
  rfl

theorem State.store_animate (s : State τ) (name : Text) (sprite : Sprite τ) (goal : AnimationGoal)
    (seconds : Float) (ease : Ease) (now : τ) :
    (s.animate name sprite goal seconds ease now).store = s.store := by
  obtain ⟨sprites, tracks, same⟩ := s.animate_frame name sprite goal seconds ease now
  rw [same]
  rfl

theorem State.store_dismiss (s : State τ) : s.dismiss.2.store = s.store := by
  unfold dismiss
  split
  · rfl
  · split <;> rfl

theorem State.store_expire [Clock τ] (s : State τ) (now : τ) (voicePlaying : Bool) :
    (s.expire now voicePlaying).store = s.store := by
  unfold expire
  extract_lets wait notification blend gone
  obtain ⟨sprites, tracks, same⟩ :=
    ({ s with wait, notification, blend } : State τ).removeSprites_frame gone
  rw [same]
  rfl

/-- What closing the video asks for is nothing that plays on. -/
theorem Game.asked_closing (g : Game τ) (s : State τ) :
    ({ g with requests := g.requests ++ s.closing.toArray } : Game τ).asked = g.asked := by
  rw [asked, asked, State.closing]
  cases s.video <;> simp [AssetRequest.playsOn]

/-! ## 2. Common failures -/

/-- The failure is that a command limit is exceeded. -/
def Failure.ExceedsGuard : Failure → Prop
  | .fault found => ∃ limit, found.cause = .play (.guardExceeded limit)
  | _ => False

/-- The failure is that an option of a choice or a point of the map is missing. -/
def Failure.MissesOption : Failure → Prop
  | .fault found =>
    (∃ index, found.cause = .play (.choiceIndex index)) ∨
      ∃ index, found.cause = .play (.mapPointIndex index)
  | _ => False

/-- A failure of another kind. -/
def Failure.Common (e : Failure) : Prop := ¬ e.ExceedsGuard ∧ ¬ e.MissesOption

/-- What is wrong with a script is common. -/
theorem Failure.common_of_script {fault : Fault} {problem : ScriptProblem}
    (script : fault.cause = .script problem) : (Failure.fault fault).Common := by
  simp [Common, ExceedsGuard, MissesOption, script]

/-- An endless loop is none of these. -/
theorem Failure.common_of_isEndless {e : Failure} (endless : e.isEndless = true) : e.Common := by
  obtain ⟨fault, rfl, stalled⟩ := exists_of_isEndless endless
  exact common_of_script stalled

theorem Failure.common_file (e : FileError) : (Failure.file e).Common := ⟨id, id⟩

theorem Failure.common_noCommand : Failure.noCommand.Common := ⟨id, id⟩

/-- A script that cannot be loaded has a fault of its own. -/
theorem Library.common_of_load_error {library : Library} {files : FileTree} {path : Text}
    {fault : Fault} (h : (library.load files path).result = .error fault) :
    (Failure.fault fault).Common := by
  unfold load at h
  simp only at h
  split at h
  · cases h
  · split at h
    · next read =>
      cases h
      unfold Program.ofFile at read
      simp only at read
      split at read
      · obtain ⟨problem, script⟩ := Program.script_of_ofSource_error read
        exact Failure.common_of_script script
      · cases read
        exact Failure.common_of_script rfl
    · cases h

/-! ## 3. Actions that leave things aside -/

namespace Action

variable {α β : Type} {F : Failure → Prop}

/-- An action that leaves aside what a game keeps from scene to scene, whether it succeeds or fails,
and that fails only in some ways. -/
def Aside (F : Failure → Prop) (m : Action τ α) : Prop := ∀ g : Game τ, Keeps g.Aside F m g

theorem Aside.after {m : Action τ α} (h : m.Aside F) {g t : Game τ} (same : g.Aside t) :
    Keeps g.Aside F m t := (h t).mono (fun _ => same.trans) fun _ => id

theorem Aside.bind {m : Action τ α} {f : α → Action τ β} (first : m.Aside F)
    (second : ∀ a, (f a).Aside F) : (m >>= f).Aside F := fun g =>
  Keeps.bind (first g) fun a _ same => (second a).after same

theorem Aside.ite {c : Prop} [Decidable c] {m n : Action τ α} (yes : m.Aside F) (no : n.Aside F) :
    (if c then m else n).Aside F := by
  split
  · exact yes
  · exact no

/-- An action that fails in common ways is no worse than one that may fail in any. -/
theorem Aside.loosen {m : Action τ α} (h : m.Aside F) : m.Aside fun _ => True := fun g =>
  (h g).mono (fun _ => id) fun _ _ => trivial

theorem aside_pure (a : α) : (pure a : Action τ α).Aside F := fun g => .refl g

theorem aside_get : (get : Action τ (Game τ)).Aside F := fun g => .refl g

theorem aside_state : (state : Action τ (State τ)).Aside F := fun g => .refl g

theorem aside_throw {e : Failure} (fails : F e) : (throw e : Action τ α).Aside F :=
  fun g => ⟨.refl g, fails⟩

theorem aside_modify {f : Game τ → Game τ} (same : ∀ g : Game τ, g.Aside (f g)) :
    (modify f : Action τ PUnit).Aside F := same

theorem aside_change {f : State τ → State τ} (same : ∀ s, (f s).store = s.store) :
    (change f).Aside F := fun g => ⟨rfl, rfl, same g.state, rfl⟩

theorem aside_log (level : LogLevel) (message : Text) : (log level message : Action τ Unit).Aside F :=
  fun _ => ⟨rfl, rfl, rfl, rfl⟩

theorem aside_logAll (records : List LogRecord) : (logAll records : Action τ Unit).Aside F :=
  fun _ => ⟨rfl, rfl, rfl, rfl⟩

theorem aside_setMenu (menu : Option Menu) : (setMenu menu : Action τ Unit).Aside F :=
  fun _ => ⟨rfl, rfl, rfl, rfl⟩

theorem aside_request {r : AssetRequest} (other : r.playsOn = false) :
    (request r : Action τ Unit).Aside F := fun g =>
  ⟨rfl, rfl, rfl, by simp [Game.asked, other]⟩

/-! ### Small actions -/

theorem aside_closeVideo : (closeVideo : Action τ Unit).Aside F := fun g =>
  keeps_of_ok (closeVideo_eq g) ⟨rfl, rfl, rfl, Game.asked_closing g g.state⟩

theorem aside_toggleInventory : (toggleInventory : Action τ Unit).Aside F :=
  aside_change fun _ => rfl

theorem aside_jump (target : Text) : (jump target : Action τ Unit).Aside Failure.Common := by
  have lacks : ∀ name, (Failure.play (.unknownLabel name)).Common := by
    simp [Failure.Common, Failure.ExceedsGuard, Failure.MissesOption, Failure.play]
  unfold jump
  refine aside_get.bind fun game => .ite (.ite aside_toggleInventory (aside_pure _)) ?_
  split
  · exact aside_change fun _ => rfl
  · exact (aside_log _ _).bind fun _ => aside_throw (lacks _)

/-- An option that is taken may be missing. -/
theorem aside_choose (pick : Ordinal) : (choose pick : Action τ Unit).Aside fun _ => True := by
  unfold choose
  refine aside_state.bind fun s => ?_
  split
  · split
    · exact aside_throw trivial
    · exact Aside.bind (aside_change fun _ => rfl) fun _ => (aside_jump _).loosen
  · refine .ite ?_ (aside_throw trivial)
    split
    · exact aside_throw trivial
    · exact Aside.bind (aside_change fun _ => rfl) fun _ => (aside_jump _).loosen

theorem aside_advance : (advance : Action τ Bool).Aside F := by
  intro g
  exact ⟨rfl, rfl, State.store_dismiss g.state, rfl⟩

theorem aside_openPauseMenu : (openPauseMenu : Action τ Bool).Aside F := by
  unfold openPauseMenu
  exact aside_get.bind fun game => .ite (aside_pure _) <|
    (aside_setMenu _).bind fun _ => aside_pure _

/-! ### What the player does -/

theorem aside_mapEvent (event : Event) :
    (mapEvent event : Action τ Unit).Aside fun _ => True := by
  unfold mapEvent
  refine aside_get.bind fun game => ?_
  split
  · exact aside_change fun _ => rfl
  · exact .ite (aside_choose _) (aside_pure _)
  · split
    · exact Aside.bind (aside_change fun _ => rfl) fun _ => (aside_jump _).loosen
    · exact aside_pure _
  · exact aside_pure _

theorem aside_choiceEvent (choice : Choice τ) (event : Event) :
    (choiceEvent choice event).Aside fun _ => True := by
  have turned : ∀ terms, (moveChoice choice terms).Aside fun _ => True :=
    fun terms => aside_change fun _ => rfl
  unfold choiceEvent
  split
  · exact .ite (aside_choose _) (aside_log _ _)
  · exact turned _
  · exact turned _
  · exact aside_choose _
  · exact aside_pure _

theorem aside_phoneEvent (event : Event) : (phoneEvent event : Action τ Unit).Aside F := by
  have read : (change fun s : State τ => { s with phone := { s.phone with unread := false } }).Aside F :=
    aside_change fun _ => rfl
  unfold phoneEvent
  split <;> first | exact read | exact aside_pure _

theorem aside_follow (target : Text) : (follow target : Action τ Unit).Aside Failure.Common := by
  unfold follow
  simp only
  split
  · exact Aside.bind (aside_change fun _ => rfl) fun _ => aside_jump _
  · exact aside_jump _

theorem aside_click (point : Point) : (click point : Action τ Unit).Aside Failure.Common := by
  unfold click
  refine aside_get.bind fun game => ?_
  split
  · exact aside_follow _
  · refine .ite (aside_change fun _ => rfl) ?_
    split
    · exact aside_follow _
    · exact aside_pure _

/-! ### Commands -/

theorem aside_showSprite (spec : SpriteSpec) : (showSprite spec : Action τ Unit).Aside F := by
  unfold showSprite
  refine aside_get.bind fun game => ?_
  simp only
  split
  · exact (aside_request rfl).bind fun _ => (aside_pure _).bind fun _ => aside_change fun _ => rfl
  · exact (aside_request rfl).bind fun _ => (aside_pure _).bind fun _ => aside_change fun _ => rfl

theorem aside_showCharacter (spec : CharacterShow) :
    (showCharacter spec : Action τ Unit).Aside F := by
  unfold showCharacter
  refine aside_get.bind fun game => ?_
  split
  · exact aside_log _ _
  · split
    · exact aside_log _ _
    · exact (aside_request rfl).bind fun _ => aside_change fun _ => rfl

theorem aside_hideSprite (name : Text) (spec : TransitionSpec) :
    (hideSprite name spec : Action τ Unit).Aside F := by
  unfold hideSprite
  refine aside_get.bind fun game => .ite (aside_change fun s => ?_) (aside_log _ _)
  exact s.store_hideSprite name _

theorem aside_animate (name : Text) (goal : AnimationGoal) (seconds : Float) (ease : Ease) :
    (animate name goal seconds ease : Action τ Unit).Aside F := by
  unfold animate
  refine aside_get.bind fun game => ?_
  split
  · exact aside_log _ _
  · exact aside_change fun s => s.store_animate ..

theorem aside_clearCache (target : CacheTarget) : (clearCache target : Action τ Unit).Aside F := by
  unfold clearCache
  split
  · exact aside_request rfl
  · exact aside_modify fun _ => ⟨rfl, rfl, rfl, rfl⟩
  · refine aside_get.bind fun game => Aside.bind (aside_modify fun _ => ⟨rfl, rfl, rfl, rfl⟩) fun _ => ?_
    exact .ite (aside_change fun _ => rfl) (aside_pure _)
  · refine Aside.bind (aside_modify fun _ => ⟨rfl, rfl, rfl, rfl⟩) fun _ => ?_
    refine Aside.bind (aside_change fun _ => rfl) fun _ => ?_
    exact aside_closeVideo.bind fun _ => aside_change fun _ => rfl

theorem aside_collect : (collect : Action τ Unit).Aside F := by
  unfold collect
  exact aside_get.bind fun game => (aside_request rfl).bind fun _ => aside_request rfl

theorem aside_watch (player : VideoPlayer τ) (playback : Playback τ) :
    (watch player playback).Aside F := by
  unfold watch
  exact (aside_request rfl).bind fun _ => aside_get.bind fun _ => aside_pure _

theorem aside_playVideo (path : Text) (loop : Bool) (fit : VideoFit) :
    (playVideo path loop fit : Action τ Unit).Aside F := by
  unfold playVideo
  refine aside_closeVideo.bind fun _ => aside_get.bind fun game => ?_
  split
  · exact aside_log _ _
  · refine (aside_request rfl).bind fun _ => (aside_watch _ _).bind fun _ => ?_
    exact Aside.bind (aside_change fun _ => rfl) fun _ => .ite aside_closeVideo (aside_pure _)

theorem aside_updateVideo : (updateVideo : Action τ Unit).Aside F := by
  unfold updateVideo
  refine aside_get.bind fun game => ?_
  split
  · refine (aside_watch _ _).bind fun _ => ?_
    exact Aside.bind (aside_change fun _ => rfl) fun _ => .ite aside_closeVideo (aside_pure _)
  · exact aside_pure _

/-- A call takes up another program, or has the fault of its script. -/
theorem aside_callScript [Clock τ] (path label : Text) :
    (callScript path label : Action τ Unit).Aside Failure.Common := by
  intro g
  unfold callScript
  rw [keeps_get]
  simp only
  rw [keeps_set_bind]
  refine Keeps.bind ((aside_logAll _).after ⟨rfl, rfl, rfl, rfl⟩) fun _ t same => ?_
  cases result : (g.library.load g.files path).result with
  | error fault => exact ⟨same, Library.common_of_load_error result⟩
  | ok edition =>
    have arrives : (do
        modify fun game => { game with program := edition.program }
        change fun s => { s.introduceAll edition.program with loading := none }
        jump label : Action τ Unit).Aside Failure.Common :=
      Aside.bind (aside_modify fun _ => ⟨rfl, rfl, rfl, rfl⟩) fun _ =>
        Aside.bind (aside_change fun s => s.store_introduceAll _) fun _ => aside_jump label
    exact arrives.after same

theorem aside_showMap (image : Text) : (showMap image : Action τ Unit).Aside F := by
  unfold showMap
  exact aside_get.bind fun game => aside_change fun _ => rfl

end Action

/-- The commands about what is kept from scene to scene: those about variables, meters, items, music
and echo. -/
def Command.isKeeping : Command → Bool
  | .setVariable .. | .addVariable .. | .showMeter .. | .hideMeter _ | .updateMeter _ | .clearMeters
  | .addItem .. | .removeItem .. | .clearItems | .music .. | .echo _ | .stopEcho | .mute _ => true
  | _ => false

/-- The commands that save or load. -/
def Command.isSaving : Command → Bool
  | .save _ | .load _ => true
  | _ => false

namespace Action

/-- Every command that is about something else. -/
theorem aside_execute [Clock τ] {command : Command} (other : command.isKeeping = false)
    (stays : command.isSaving = false) :
    (execute command : Action τ Unit).Aside Failure.Common := by
  have plain {f : State τ → State τ} (same : ∀ s, (f s).store = s.store) :
      (change f).Aside Failure.Common := aside_change same
  unfold execute
  refine aside_get.bind fun game => ?_
  cases command with
  | setVariable | addVariable | showMeter | hideMeter | updateMeter | clearMeters | addItem |
    removeItem | clearItems | music | echo | stopEcho | mute => cases other
  | save | load => cases stays
  | label => exact aside_pure _
  | say | choice | camera | notify | blend | beginLoading | endLoading | define | input |
    openPhone | closePhone | mapPoint | hideMap | hotspot | debugHotspots =>
    exact plain fun _ => rfl
  | jump target => exact aside_jump target
  | scene kind value transition floating =>
    have painted : ∀ background : Background τ,
        (change fun s => { s.clearSprites with background } : Action τ Unit).Aside Failure.Common :=
      fun _ => plain fun _ => rfl
    exact .ite ((aside_request rfl).bind fun _ => painted _) (painted _)
  | «show» sprite => exact aside_showSprite sprite
  | showCharacter appearance => exact aside_showCharacter appearance
  | hide name transition => exact aside_hideSprite name transition
  | animate name goal seconds ease => exact aside_animate name goal seconds ease
  | stopAnimation name => cases name <;> exact plain fun _ => rfl
  | sound | voice => exact aside_request rfl
  | preload | pin | unpin => exact aside_request (by split <;> rfl)
  | clearCache target => exact aside_clearCache target
  | collect => exact aside_collect
  | wait | waitVoice | waitVideo => exact .ite (plain fun _ => rfl) (aside_pure _)
  | jumpIf name op value target => exact .ite (aside_jump target) (aside_pure _)
  | call path resolved label => exact aside_callScript resolved label
  | phoneMessage side text =>
    exact .ite ((aside_log _ _).bind fun _ => plain fun _ => rfl) (plain fun _ => rfl)
  | showMap image => exact aside_showMap image
  | playVideo path loop fit => exact aside_playVideo path loop fit
  | stopVideo => exact aside_closeVideo
  | removeHotspot name | removeButton name => cases name <;> exact plain fun _ => rfl
  | button button => exact .ite (plain fun _ => rfl) (aside_log _ _)

/-! ### The passing of time -/

theorem aside_checkTimeout [Clock τ] : (checkTimeout : Action τ Unit).Aside fun _ => True := by
  unfold checkTimeout
  refine aside_get.bind fun game => ?_
  split
  · split
    · exact aside_pure _
    · exact .ite (aside_pure _) ((aside_log _ _).bind fun _ => aside_choose _)
  · exact aside_pure _

theorem aside_passTime [Clock τ] : (passTime : Action τ Unit).Aside F := by
  unfold passTime
  refine aside_get.bind fun game => Aside.bind (aside_change fun s => ?_) fun _ => ?_
  · exact s.store_expire game.now game.voicePlaying
  · exact aside_updateVideo.bind fun _ => aside_state.bind fun s =>
      .ite (aside_change fun _ => rfl) (aside_pure _)

end Action
end VisualNovel
