import VisualNovel.Proofs.Engine.Session
import VisualNovel.Proofs.Relay.Relay
import VisualNovel.Proofs.Story.Shift

/-!
The time of day does not matter.

`Game.shift f` is a game with all moments changed: that of its clock and all that its state
remembers. Where `f` leaves the times between moments as they are, each command does the same to a
game and to the shifted one (`Shifted.execute`), and so do events, frames, saves and loads. A
session that is held later, with a delay on everything, is the same session: operation by operation
it gives the same answers, and leaves the same game but for the delay (`history_delayed`).

A player of videos is told what the clock shows and may make of it what it wants, so there is none
here.
-/

namespace VisualNovel

open VisualNovel.Action (Together together_pure together_fail together_passOn together_get
  together_state together_bind_ok)

variable {τ : Type}

/-- The game with all its moments changed. -/
def Game.shift (f : τ → τ) (g : Game τ) : Game τ :=
  { g with state := g.state.shift f, now := f g.now }

/-- A game that waits for something waits for the same at another time. -/
theorem Game.status_shift (f : τ → τ) (g : Game τ) : (g.shift f).status = g.status := by
  unfold Game.status Status.ofState Game.shift
  simp only [State.map_shift, State.choice_shift, State.question_shift, State.phone_shift,
    State.wait_shift, State.dialogue_shift, State.index_shift, Option.isSome_map]
  cases g.state.wait with
  | none => rfl
  | some wait => cases wait <;> rfl

/-- A game without a player of videos, and the same game with all moments changed. -/
structure Game.Shifted (f : τ → τ) (g h : Game τ) : Prop where
  same : h = g.shift f
  player : g.setup.videoPlayer = none

namespace Game.Shifted

variable {f : τ → τ} {g h : Game τ}

/-! ## 1. What is the same -/

theorem setup (moved : g.Shifted f h) : h.setup = g.setup := by
  rw [moved.same]
  rfl

theorem program (moved : g.Shifted f h) : h.program = g.program := by
  rw [moved.same]
  rfl

theorem menu (moved : g.Shifted f h) : h.menu = g.menu := by
  rw [moved.same]
  rfl

theorem voicePlaying (moved : g.Shifted f h) : h.voicePlaying = g.voicePlaying := by
  rw [moved.same]
  rfl

theorem library (moved : g.Shifted f h) : h.library = g.library := by
  rw [moved.same]
  rfl

theorem files (moved : g.Shifted f h) : h.files = g.files := by
  rw [moved.same]
  rfl

theorem state (moved : g.Shifted f h) : h.state = g.state.shift f := by
  rw [moved.same]
  rfl

theorem now (moved : g.Shifted f h) : h.now = f g.now := by
  rw [moved.same]
  rfl

theorem status (moved : g.Shifted f h) : h.status = g.status := by
  rw [moved.same, g.status_shift]

/-! ## 2. Small actions -/

/-- A change of the state that commutes with the shift. -/
theorem change (moved : g.Shifted f h) {p q : State τ → State τ}
    (state : q (g.state.shift f) = (p g.state).shift f) :
    Together (Shifted f) (Action.change p) (Action.change q) g h := by
  obtain ⟨rfl, player⟩ := moved
  refine .ok rfl rfl ⟨?_, player⟩
  show ({ g.shift f with state := q (g.state.shift f) } : Game τ) = _
  rw [state]
  rfl

theorem change_bind (moved : g.Shifted f h) {α : Type} {p q : State τ → State τ}
    {m n : Unit → Action τ α} (state : q (g.state.shift f) = (p g.state).shift f)
    (rest : ∀ g h, g.Shifted f h → Together (Shifted f) (m ()) (n ()) g h) :
    Together (Shifted f) (Action.change p >>= m) (Action.change q >>= n) g h :=
  (moved.change state).bind fun _ => rest

/-- A change of what stands around the story. -/
theorem around (moved : g.Shifted f h) {p : Game τ → Game τ}
    (same : p (g.shift f) = (p g).shift f) (setup : (p g).setup = g.setup) :
    Together (Shifted f) (modify p) (modify p) g h := by
  obtain ⟨rfl, player⟩ := moved
  exact .ok rfl rfl ⟨same, (congrArg Setup.videoPlayer setup).trans player⟩

theorem around_bind (moved : g.Shifted f h) {α : Type} {p : Game τ → Game τ}
    {m n : PUnit → Action τ α} (same : p (g.shift f) = (p g).shift f)
    (setup : (p g).setup = g.setup)
    (rest : ∀ g h, g.Shifted f h → Together (Shifted f) (m ⟨⟩) (n ⟨⟩) g h) :
    Together (Shifted f) (modify p >>= m) (modify p >>= n) g h :=
  (moved.around same setup).bind fun _ => rest

theorem log (moved : g.Shifted f h) (level : LogLevel) (message : Text) :
    Together (Shifted f) (Action.log level message) (Action.log level message) g h :=
  moved.around rfl rfl

theorem logAll (moved : g.Shifted f h) (records : List LogRecord) :
    Together (Shifted f) (Action.logAll records) (Action.logAll records) g h :=
  moved.around rfl rfl

theorem request (moved : g.Shifted f h) (r : AssetRequest) :
    Together (Shifted f) (Action.request r) (Action.request r) g h :=
  moved.around rfl rfl

theorem setMenu (moved : g.Shifted f h) (menu : Option Menu) :
    Together (Shifted f) (Action.setMenu menu) (Action.setMenu menu) g h :=
  moved.around rfl rfl

theorem closeVideo (moved : g.Shifted f h) :
    Together (Shifted f) Action.closeVideo Action.closeVideo g h := by
  obtain ⟨rfl, player⟩ := moved
  exact .ok (Action.closeVideo_eq g) (Action.closeVideo_eq _) ⟨rfl, player⟩

theorem toggleInventory (moved : g.Shifted f h) :
    Together (Shifted f) Action.toggleInventory Action.toggleInventory g h := moved.change rfl

theorem jump (moved : g.Shifted f h) (target : Text) :
    Together (Shifted f) (Action.jump target) (Action.jump target) g h := by
  unfold Action.jump
  simp only
  rw [together_get, moved.setup, moved.program]
  refine .ite Iff.rfl (fun _ => ?_) fun _ => ?_
  · exact .ite Iff.rfl (fun _ => moved.toggleInventory) fun _ => together_pure moved
  · split
    · exact moved.change rfl
    · exact (moved.log _ _).bind fun _ _ _ moved => together_fail moved

theorem choose (moved : g.Shifted f h) (pick : Ordinal) :
    Together (Shifted f) (Action.choose pick) (Action.choose pick) g h := by
  unfold Action.choose
  rw [together_state, moved.state, State.choice_shift, State.map_shift]
  cases g.state.choice with
  | some choice =>
    simp only [Option.map_some, Choice.mapTime]
    split
    · exact together_fail moved
    · exact moved.change_bind rfl fun _ _ moved => moved.jump _
  | none =>
    refine .ite Iff.rfl (fun _ => ?_) fun _ => together_fail moved
    split
    · exact together_fail moved
    · exact moved.change_bind rfl fun _ _ moved => moved.jump _

theorem submit (moved : g.Shifted f h) (text : Option Text) :
    Together (Shifted f) (Action.submit text) (Action.submit text) g h := by
  unfold Action.submit
  rw [together_state, moved.state, State.question_shift]
  split
  · exact together_fail moved
  · exact moved.change rfl

theorem advance (moved : g.Shifted f h) :
    Together (Shifted f) Action.advance Action.advance g h := by
  unfold Action.advance
  rw [together_state, moved.state, State.dismiss_shift]
  simp only
  exact moved.change_bind rfl fun _ _ moved => together_pure moved

theorem scroll (moved : g.Shifted f h) (delta : Float) :
    Together (Shifted f) (Action.scroll delta) (Action.scroll delta) g h := by
  unfold Action.scroll
  rw [together_get, moved.setup]
  refine moved.change_bind rfl fun _ _ moved => ?_
  rw [together_state, moved.state, State.inventoryPage_shift]
  exact together_pure moved

theorem openPauseMenu (moved : g.Shifted f h) :
    Together (Shifted f) Action.openPauseMenu Action.openPauseMenu g h := by
  unfold Action.openPauseMenu
  rw [together_get, moved.menu, moved.setup]
  refine .ite Iff.rfl (fun _ => together_pure moved) fun _ => ?_
  exact (moved.setMenu _).bind fun _ _ _ moved => together_pure moved

theorem restart (moved : g.Shifted f h) :
    Together (Shifted f) Action.restart Action.restart g h := by
  unfold Action.restart
  refine moved.closeVideo.bind fun _ g _ moved => moved.around ?_ rfl
  -- a new game begins without any moments
  have fresh : (({} : State τ).introduceAll g.entry).shift f = ({} : State τ).introduceAll g.entry :=
    (State.introduceAll_shift {} g.entry).symm
  show ({ g.shift f with
      program := g.entry, state := ({} : State τ).introduceAll g.entry, menu := none } : Game τ) =
    { g.shift f with
      program := g.entry, state := (({} : State τ).introduceAll g.entry).shift f, menu := none }
  rw [fresh]

theorem loads (moved : g.Shifted f h) (path : Text) :
    h.library.load h.files path = g.library.load g.files path := by
  rw [moved.library, moved.files]

theorem shelved (moved : g.Shifted f h) (library : Library) :
    ({ g with library } : Game τ).Shifted f { h with library } := by
  obtain ⟨rfl, player⟩ := moved
  exact ⟨rfl, player⟩

theorem stored (moved : g.Shifted f h) (files : FileTree) :
    ({ g with files } : Game τ).Shifted f { h with files } := by
  obtain ⟨rfl, player⟩ := moved
  exact ⟨rfl, player⟩

/-! ## 3. Saving and loading -/

theorem savedProgram (moved : g.Shifted f h) (script : Text) :
    Together (Shifted f) (Action.savedProgram script) (Action.savedProgram script) g h := by
  unfold Action.savedProgram
  rw [together_get, moved.loads]
  refine .ite (by rw [moved.program]) (fun _ => ?_) fun _ => ?_
  · rw [moved.program]
    exact together_pure moved
  · refine (together_bind_ok rfl rfl).mpr (((moved.shelved _).logAll _).bind fun _ _ _ moved => ?_)
    split
    · exact together_pure moved
    · next fault _ =>
      refine (together_passOn fault moved).bind fun _ _ _ moved => ?_
      exact (moved.log _ _).bind fun _ _ _ moved => together_pure moved

theorem slotFile (moved : g.Shifted f h) (slot : Option Text) :
    Together (Shifted f) (Action.slotFile slot) (Action.slotFile slot) g h := by
  unfold Action.slotFile
  rw [together_get, moved.setup]
  exact together_pure moved

theorem leaveAfterSave (moved : g.Shifted f h) (menu : Menu) :
    Together (Shifted f) (Action.leaveAfterSave menu) (Action.leaveAfterSave menu) g h :=
  moved.setMenu _

variable [Clock τ]

section Saving

variable (shift : Clock.Shift f)

include shift

/-- A snapshot does not tell when it was taken. -/
theorem snapshot (moved : g.Shifted f h) : h.snapshot = g.snapshot := by
  unfold Game.snapshot
  rw [moved.state, moved.setup, moved.program, moved.now]
  exact Snapshot.ofState_shift shift g.now g.state _

theorem resumeFrom (moved : g.Shifted f h) (data : Snapshot τ) (program : Program) :
    Together (Shifted f) (Action.resumeFrom data program) (Action.resumeFrom data program) g h := by
  have resumed : (data.toState h.now).introduceAll program =
      ((data.toState g.now).introduceAll program).shift f := by
    rw [moved.now, Snapshot.toState_shift shift, State.introduceAll_shift]
  refine .ok (Action.resumeFrom_eq g data program) (Action.resumeFrom_eq h data program) ?_
  rw [resumed]
  obtain ⟨rfl, player⟩ := moved
  exact ⟨rfl, player⟩

theorem restore (moved : g.Shifted f h) (data : Snapshot τ) :
    Together (Shifted f) (Action.restore data) (Action.restore data) g h := by
  unfold Action.restore
  rw [together_get, moved.setup]
  refine (moved.savedProgram _).bind fun found _ _ moved => ?_
  cases found with
  | none => exact together_pure moved
  | some program =>
    refine .ite Iff.rfl (fun _ => ?_) fun _ => ?_
    · exact (moved.log _ _).bind fun _ _ _ moved => together_pure moved
    · exact (moved.resumeFrom shift data program).bind fun _ _ _ moved => together_pure moved

/-- The same save file is written. -/
theorem saveTo (moved : g.Shifted f h) (path : Text) :
    Together (Shifted f) (Action.saveTo path) (Action.saveTo path) g h := by
  have taken : ∀ k : Game τ, Action.snapshot k = .ok k.snapshot k := fun _ => rfl
  have written : (h.snapshot.mapTime Clock.toMillis).save h.files path =
      (g.snapshot.mapTime Clock.toMillis).save g.files path := by
    rw [moved.snapshot shift, moved.files]
  unfold Action.saveTo
  rw [together_bind_ok (taken g) (taken h), together_get, written]
  refine (together_bind_ok rfl rfl).mpr (((moved.stored _).logAll _).bind fun _ _ _ moved => ?_)
  split
  · exact .error rfl rfl moved
  · exact together_pure moved
  · exact (moved.log _ _).bind fun _ _ _ moved => together_pure moved

theorem loadFrom (moved : g.Shifted f h) (path : Text) :
    Together (Shifted f) (Action.loadFrom path) (Action.loadFrom path) g h := by
  unfold Action.loadFrom
  rw [together_get, moved.files]
  split
  refine (moved.logAll _).bind fun _ _ _ moved => ?_
  split
  · exact together_pure moved
  · exact moved.restore shift _

theorem save (moved : g.Shifted f h) (slot : Option Text) :
    Together (Shifted f) (Action.save slot) (Action.save slot) g h :=
  (moved.slotFile slot).bind fun path _ _ moved => moved.saveTo shift path

theorem load (moved : g.Shifted f h) (slot : Option Text) :
    Together (Shifted f) (Action.load slot) (Action.load slot) g h :=
  (moved.slotFile slot).bind fun path _ _ moved => moved.loadFrom shift path

theorem takeMenuAction (moved : g.Shifted f h) (name : Text) :
    Together (Shifted f) (Action.takeMenuAction name) (Action.takeMenuAction name) g h := by
  unfold Action.takeMenuAction
  rw [together_get, moved.menu]
  split
  · exact together_pure moved
  · next menu _ =>
    split
    · refine .ite Iff.rfl (fun _ => ?_) fun _ => ?_
      · refine (moved.save shift _).bind fun path _ _ moved => ?_
        exact .ite Iff.rfl (fun _ => moved.leaveAfterSave _) fun _ => together_pure moved
      · refine (moved.load shift _).bind fun done _ _ moved => ?_
        exact .ite Iff.rfl (fun _ => moved.setMenu _) fun _ => together_pure moved
    · exact moved.restart
    · refine (moved.load shift _).bind fun done _ _ moved => ?_
      exact .ite Iff.rfl (fun _ => moved.setMenu _) fun _ => moved.log _ _
    · exact moved.setMenu _
    · exact moved.setMenu _
    · exact moved.setMenu _
    · exact .ite Iff.rfl (fun _ => moved.setMenu _) fun _ => together_pure moved
    · exact moved.around rfl rfl
    · refine (moved.save shift _).bind fun path _ _ moved => ?_
      exact .ite Iff.rfl (fun _ => moved.leaveAfterSave _) fun _ => together_pure moved
    · refine (moved.load shift _).bind fun done _ _ moved => ?_
      exact .ite Iff.rfl (fun _ => moved.setMenu _) fun _ => together_pure moved
    · exact moved.log _ _

end Saving

/-! ## 4. Commands -/

omit [Clock τ] in
theorem findSprite (moved : g.Shifted f h) (name : Text) :
    h.state.sprites.get? name = (g.state.sprites.get? name).map (·.mapTime f) := by
  rw [moved.state, State.sprites_shift, Table.get?_map]

omit [Clock τ] in
/-- A sprite that remembers when it came is put on the stage. -/
theorem place (moved : g.Shifted f h) (screen : Screen) {sprite sprite' : Sprite τ}
    (same : sprite' = sprite.mapTime f) (pos : Option Point) :
    Together (Shifted f) (Action.change fun s => s.placeSprite screen sprite pos)
      (Action.change fun s => s.placeSprite screen sprite' pos) g h :=
  moved.change (by rw [same]; exact g.state.placeSprite_shift screen sprite pos)

omit [Clock τ] in
theorem showSprite (moved : g.Shifted f h) (spec : SpriteSpec) :
    Together (Shifted f) (Action.showSprite spec) (Action.showSprite spec) g h := by
  unfold Action.showSprite
  rw [together_get, moved.findSprite, moved.setup, moved.now, Transition.ofSpec_shift]
  cases g.state.sprites.get? spec.name <;> cases spec.kind <;>
    exact (moved.request _).bind fun _ _ _ moved => moved.place _ rfl _

omit [Clock τ] in
theorem showCharacter (moved : g.Shifted f h) (spec : CharacterShow) :
    Together (Shifted f) (Action.showCharacter spec) (Action.showCharacter spec) g h := by
  unfold Action.showCharacter
  rw [together_get, moved.findSprite, moved.setup, moved.now, moved.state,
    State.characters_shift, Transition.ofSpec_shift]
  split
  · exact moved.log _ _
  · split
    · exact moved.log _ _
    · cases g.state.sprites.get? spec.ident <;>
        exact (moved.request _).bind fun _ _ _ moved => moved.place _ rfl _

omit [Clock τ] in
theorem hideSprite (moved : g.Shifted f h) (name : Text) (spec : TransitionSpec) :
    Together (Shifted f) (Action.hideSprite name spec) (Action.hideSprite name spec) g h := by
  unfold Action.hideSprite
  rw [together_get, moved.now, moved.state, State.sprites_shift, Table.contains_map,
    Transition.ofSpec_shift]
  refine .ite Iff.rfl (fun _ => ?_) fun _ => moved.log _ _
  exact moved.change (g.state.hideSprite_shift name _)

omit [Clock τ] in
theorem animate (moved : g.Shifted f h) (name : Text) (goal : AnimationGoal) (seconds : Float)
    (ease : Ease) :
    Together (Shifted f) (Action.animate name goal seconds ease)
      (Action.animate name goal seconds ease) g h := by
  unfold Action.animate
  rw [together_get, moved.findSprite, moved.now]
  cases g.state.sprites.get? name with
  | none => exact moved.log _ _
  | some sprite => exact moved.change (g.state.animate_shift name sprite goal seconds ease g.now)

omit [Clock τ] in
theorem clearCache (moved : g.Shifted f h) (target : CacheTarget) :
    Together (Shifted f) (Action.clearCache target) (Action.clearCache target) g h := by
  cases target with
  | images => exact moved.request _
  | scripts => exact moved.around rfl rfl
  | script path =>
    unfold Action.clearCache
    rw [together_get, moved.program]
    refine moved.around_bind rfl rfl fun _ _ moved => ?_
    exact .ite Iff.rfl (fun _ => moved.change rfl) fun _ => together_pure moved
  | stage =>
    refine moved.around_bind rfl rfl fun _ _ moved => ?_
    refine moved.change_bind rfl fun _ _ moved => ?_
    exact moved.closeVideo.bind fun _ _ _ moved => moved.change rfl

omit [Clock τ] in
theorem collect (moved : g.Shifted f h) :
    Together (Shifted f) Action.collect Action.collect g h := by
  have images : ∀ (root : Text) (s : State τ),
      Action.usedImages root (s.shift f) = Action.usedImages root s := by
    intro root s
    unfold Action.usedImages
    simp only [State.sprites_shift, Table.values_map, List.filter_map, List.map_map]
    rfl
  unfold Action.collect
  rw [together_get, moved.state, moved.setup, images]
  exact (moved.request _).bind fun _ _ _ moved => moved.request _

omit [Clock τ] in
theorem player_right (moved : g.Shifted f h) : h.setup.videoPlayer = none := by
  rw [moved.setup, moved.player]

omit [Clock τ] in
theorem playVideo (moved : g.Shifted f h) (path : Text) (loop : Bool) (fit : VideoFit) :
    Together (Shifted f) (Action.playVideo path loop fit) (Action.playVideo path loop fit) g h := by
  unfold Action.playVideo
  refine moved.closeVideo.bind fun _ _ _ moved => ?_
  rw [together_get, moved.player, moved.player_right]
  exact moved.log _ _

omit [Clock τ] in
theorem updateVideo (moved : g.Shifted f h) :
    Together (Shifted f) Action.updateVideo Action.updateVideo g h := by
  unfold Action.updateVideo
  rw [together_get, moved.player, moved.player_right, moved.state, State.video_shift]
  cases g.state.video <;> exact together_pure moved

omit [Clock τ] in
theorem callScript (moved : g.Shifted f h) (resolved label : Text) :
    Together (Shifted f) (Action.callScript resolved label) (Action.callScript resolved label)
      g h := by
  unfold Action.callScript
  rw [together_get, moved.loads]
  refine (together_bind_ok rfl rfl).mpr (((moved.shelved _).logAll _).bind fun _ _ _ moved => ?_)
  split
  · exact .error rfl rfl moved
  · refine moved.around_bind rfl rfl fun g _ moved => ?_
    refine moved.change_bind ?_ fun _ _ moved => moved.jump label
    rw [State.introduceAll_shift]
    rfl

omit [Clock τ] in
theorem showMap (moved : g.Shifted f h) (image : Text) :
    Together (Shifted f) (Action.showMap image) (Action.showMap image) g h := by
  unfold Action.showMap
  rw [together_get, moved.program]
  exact moved.change rfl

section Commands

variable (shift : Clock.Shift f)

include shift

/-- One command does the same at another time. -/
theorem execute (moved : g.Shifted f h) (c : Command) :
    Together (Shifted f) (Action.execute c) (Action.execute c) g h := by
  unfold Action.execute
  rw [together_get]
  simp only
  rw [moved.state, State.vars_shift, moved.now, moved.setup, moved.voicePlaying]
  cases c with
  | label name => exact together_pure moved
  | say speaker text => exact moved.change rfl
  | jump target => exact moved.jump target
  | choice prompt options timeout timeoutDefault => exact moved.change rfl
  | scene kind value transition floating =>
    have painted : ∀ g' h' : Game τ, g'.Shifted f h' →
        Together (Shifted f)
          (Action.change fun s => { s.clearSprites with
            background := ⟨kind, value, floating, Transition.ofSpec transition g.now⟩ })
          (Action.change fun s => { s.clearSprites with
            background := ⟨kind, value, floating, Transition.ofSpec transition (f g.now)⟩ }) g' h' := by
      intro g' h' moved
      rw [Transition.ofSpec_shift]
      exact moved.change rfl
    refine .ite Iff.rfl (fun _ => ?_) fun _ => painted g h moved
    exact (moved.request _).bind fun _ => painted
  | «show» sprite => exact moved.showSprite sprite
  | showCharacter appearance => exact moved.showCharacter appearance
  | hide name transition => exact moved.hideSprite name transition
  | camera camera => exact moved.change rfl
  | animate name goal seconds ease => exact moved.animate name goal seconds ease
  | stopAnimation name =>
    cases name with
    | none => exact moved.change rfl
    | some name =>
      refine moved.change ?_
      simp only [State.shift, Table.erase_map]
  | music channel path loop => exact moved.change_bind rfl fun _ _ moved => moved.request _
  | sound channel path => exact moved.request _
  | echo path => exact moved.change_bind rfl fun _ _ moved => moved.request _
  | stopEcho => exact moved.change_bind rfl fun _ _ moved => moved.request _
  | voice character path => exact moved.request _
  | mute target =>
    refine (moved.request _).bind fun _ g h moved => ?_
    have noEcho : ∀ g' h' : Game τ, g'.Shifted f h' →
        Together (Shifted f)
          (if (decide (target = Text.ofString "all") || decide (target = Text.ofString "echo")) = true
            then Action.change fun s => { s with echo := none } else pure ())
          (if (decide (target = Text.ofString "all") || decide (target = Text.ofString "echo")) = true
            then Action.change fun s => { s with echo := none } else pure ()) g' h' :=
      fun g' h' moved => .ite Iff.rfl (fun _ => moved.change rfl) fun _ => together_pure moved
    refine .ite Iff.rfl (fun _ => ?_) fun _ => noEcho g h moved
    exact moved.change_bind rfl noEcho
  | preload kind path => exact moved.request _
  | clearCache target => exact moved.clearCache target
  | pin kind path => exact moved.request _
  | unpin kind path => exact moved.request _
  | collect => exact moved.collect
  | wait seconds =>
    refine .ite Iff.rfl (fun _ => moved.change ?_) fun _ => together_pure moved
    rw [shift.after]
    rfl
  | waitVoice => exact .ite Iff.rfl (fun _ => moved.change rfl) fun _ => together_pure moved
  | waitVideo => exact .ite Iff.rfl (fun _ => moved.change rfl) fun _ => together_pure moved
  | notify text seconds =>
    refine moved.change ?_
    rw [shift.after]
    rfl
  | blend style seconds => exact moved.change rfl
  | save slot => exact (moved.save shift slot).bind fun _ _ _ moved => together_pure moved
  | load slot => exact (moved.load shift slot).bind fun _ _ _ moved => together_pure moved
  | setVariable name value =>
    simp only
    split
    · exact moved.change rfl
    · exact moved.log _ _
  | addVariable name amount => exact moved.change rfl
  | jumpIf name op value target =>
    exact .ite Iff.rfl (fun _ => moved.jump target) fun _ => together_pure moved
  | call path resolved label => exact moved.callScript resolved label
  | beginLoading text => exact moved.change rfl
  | endLoading => exact moved.change rfl
  | define character => exact moved.change rfl
  | input name prompt default => exact moved.change rfl
  | openPhone contact => exact moved.change rfl
  | phoneMessage side text =>
    have rung : ∀ (message : PhoneMessage) (g' h' : Game τ), g'.Shifted f h' →
        Together (Shifted f)
          (Action.change fun s => { s with
            phone := { s.phone with messages := s.phone.messages.push message, unread := true } })
          (Action.change fun s => { s with
            phone := { s.phone with messages := s.phone.messages.push message, unread := true } })
          g' h' := fun message g' h' moved => moved.change rfl
    refine .ite Iff.rfl (fun _ => ?_) fun _ => rung _ g h moved
    exact (moved.log _ _).bind fun _ => rung _
  | closePhone => exact moved.change rfl
  | showMeter name label min max color => exact moved.change rfl
  | hideMeter name => exact moved.change rfl
  | updateMeter name => exact moved.change rfl
  | clearMeters => exact moved.change rfl
  | addItem id name description icon amount =>
    refine moved.change_bind rfl fun _ _ moved => ?_
    exact (moved.scroll _).bind fun _ _ _ moved => together_pure moved
  | removeItem id amount =>
    refine moved.change_bind (g.state.takeItem_shift id amount) fun _ _ moved => ?_
    exact (moved.scroll _).bind fun _ _ _ moved => together_pure moved
  | clearItems =>
    refine moved.change_bind rfl fun _ _ moved => ?_
    exact (moved.scroll _).bind fun _ _ _ moved => together_pure moved
  | showMap image => exact moved.showMap image
  | mapPoint title pos corners target => exact moved.change rfl
  | hideMap => exact moved.change rfl
  | playVideo path loop fit => exact moved.playVideo path loop fit
  | stopVideo => exact moved.closeVideo
  | hotspot name shape target => exact moved.change rfl
  | removeHotspot name => cases name <;> exact moved.change rfl
  | debugHotspots enabled => exact moved.change rfl
  | button button =>
    exact .ite Iff.rfl (fun _ => moved.change rfl) fun _ => moved.log _ _
  | removeButton name => cases name <;> exact moved.change rfl

/-! ## 5. Events -/

theorem takeMenuEntry (moved : g.Shifted f h) (menu : Menu) (pick : Ordinal) :
    Together (Shifted f) (Action.takeMenuEntry menu pick) (Action.takeMenuEntry menu pick) g h := by
  unfold Action.takeMenuEntry
  rw [together_get, moved.setup]
  split
  · exact moved.takeMenuAction shift _
  · exact together_pure moved

theorem menuEvent (moved : g.Shifted f h) (menu : Menu) (event : Event) :
    Together (Shifted f) (Action.menuEvent menu event) (Action.menuEvent menu event) g h := by
  unfold Action.menuEvent
  rw [together_get, moved.setup]
  have backward : Together (Shifted f)
      (if menu.page ≠ .main then Action.takeMenuAction MenuAction.backName
        else if menu.kind = .pause then Action.setMenu none else pure ())
      (if menu.page ≠ .main then Action.takeMenuAction MenuAction.backName
        else if menu.kind = .pause then Action.setMenu none else pure ()) g h :=
    .ite Iff.rfl (fun _ => moved.takeMenuAction shift _) fun _ =>
      .ite Iff.rfl (fun _ => moved.setMenu _) fun _ => together_pure moved
  simp only
  split
  · refine .ite Iff.rfl (fun _ => ?_) fun _ => together_pure moved
    exact (moved.setMenu _).bind fun _ _ _ moved => moved.takeMenuEntry shift _ _
  · exact moved.setMenu _
  · exact moved.setMenu _
  · exact moved.takeMenuEntry shift _ _
  · exact backward
  · exact backward
  · exact together_pure moved

omit shift [Clock τ] in
theorem mapEvent (moved : g.Shifted f h) (event : Event) :
    Together (Shifted f) (Action.mapEvent event) (Action.mapEvent event) g h := by
  unfold Action.mapEvent
  rw [together_get, moved.setup, moved.state, State.map_shift]
  split
  · exact moved.change rfl
  · exact .ite Iff.rfl (fun _ => moved.choose _) fun _ => together_pure moved
  · split
    · exact moved.change_bind rfl fun _ _ moved => moved.jump _
    · exact together_pure moved
  · exact together_pure moved

omit shift [Clock τ] in
theorem choiceEvent (moved : g.Shifted f h) (choice : Choice τ) (event : Event) :
    Together (Shifted f) (Action.choiceEvent choice event)
      (Action.choiceEvent (choice.mapTime f) event) g h := by
  unfold Action.choiceEvent
  split
  · exact .ite Iff.rfl (fun _ => moved.choose _) fun _ => moved.log _ _
  · exact moved.change rfl
  · exact moved.change rfl
  · exact moved.choose _
  · exact together_pure moved

omit shift [Clock τ] in
theorem questionEvent (moved : g.Shifted f h) (question : Question) (event : Event) :
    Together (Shifted f) (Action.questionEvent question event) (Action.questionEvent question event)
      g h := by
  unfold Action.questionEvent
  simp only
  split
  · exact moved.change rfl
  · exact moved.change rfl
  · exact moved.submit none
  · exact together_pure moved

omit shift [Clock τ] in
theorem phoneEvent (moved : g.Shifted f h) (event : Event) :
    Together (Shifted f) (Action.phoneEvent event) (Action.phoneEvent event) g h := by
  unfold Action.phoneEvent
  split
  · exact moved.change rfl
  · exact moved.change rfl
  · exact moved.change rfl
  · exact together_pure moved

omit shift [Clock τ] in
theorem follow (moved : g.Shifted f h) (target : Text) :
    Together (Shifted f) (Action.follow target) (Action.follow target) g h := by
  unfold Action.follow
  refine .ite Iff.rfl (fun _ => ?_) fun _ => moved.jump target
  exact moved.change_bind rfl fun _ _ moved => moved.jump target

omit shift [Clock τ] in
theorem click (moved : g.Shifted f h) (point : Point) :
    Together (Shifted f) (Action.click point) (Action.click point) g h := by
  have button : Action.buttonAt? h point = Action.buttonAt? g point := by
    rw [moved.same]
    rfl
  have hotspot : Action.hotspotAt? h point = Action.hotspotAt? g point := by
    rw [moved.same]
    rfl
  unfold Action.click
  rw [together_get, button, hotspot, moved.state, State.dialogue_shift]
  split
  · exact moved.follow _
  · refine .ite Iff.rfl (fun _ => moved.change rfl) fun _ => ?_
    split
    · exact moved.follow _
    · exact together_pure moved

theorem storyKey (moved : g.Shifted f h) (key : Key) :
    Together (Shifted f) (Action.storyKey key) (Action.storyKey key) g h := by
  unfold Action.storyKey
  cases key with
  | menu => exact moved.openPauseMenu.bind fun _ _ _ moved => together_pure moved
  | quickSave => exact (moved.save shift none).bind fun _ _ _ moved => together_pure moved
  | quickLoad => exact (moved.load shift none).bind fun _ _ _ moved => together_pure moved
  | inventory =>
    simp only
    rw [together_get, moved.setup]
    exact .ite Iff.rfl (fun _ => moved.toggleInventory) fun _ => together_pure moved
  | pageUp => exact (moved.scroll _).bind fun _ _ _ moved => together_pure moved
  | pageDown => exact (moved.scroll _).bind fun _ _ _ moved => together_pure moved
  | back => exact moved.change rfl
  | advance => exact moved.change rfl
  | confirm => exact moved.change rfl
  | up => exact together_pure moved
  | down => exact together_pure moved
  | erase => exact together_pure moved

/-- What the player does has the same effect at another time. -/
theorem handle (moved : g.Shifted f h) (event : Event) :
    Together (Shifted f) (Action.handle event) (Action.handle event) g h := by
  unfold Action.handle
  rw [together_get, moved.menu, moved.state, State.map_shift, State.choice_shift,
    State.question_shift, State.phone_shift]
  split
  · exact moved.menuEvent shift _ event
  · refine .ite Iff.rfl (fun _ => moved.mapEvent event) fun _ => ?_
    cases g.state.choice with
    | some choice => exact moved.choiceEvent choice event
    | none =>
      cases g.state.question with
      | some question => exact moved.questionEvent question event
      | none =>
        refine .ite Iff.rfl (fun _ => moved.phoneEvent event) fun _ => ?_
        split
        · exact moved.click _
        · exact moved.storyKey shift _
        · exact together_pure moved

/-! ## 6. Frames -/

theorem step (moved : g.Shifted f h) :
    Together (Shifted f) Action.step Action.step g h := by
  unfold Action.step
  rw [together_get, moved.program, moved.state, State.index_shift]
  refine moved.change_bind rfl fun _ _ moved => ?_
  split
  · exact moved.execute shift _
  · exact .error rfl rfl moved

theorem runAtMost (moved : g.Shifted f h) (limit : Nat) :
    Together (Shifted f) (Action.runAtMost limit) (Action.runAtMost limit) g h := by
  induction limit generalizing g h with
  | zero => exact together_fail moved
  | succ limit ih =>
    have read : ∀ k : Game τ, Action.status k = .ok k.status k := fun _ => rfl
    rw [Action.runAtMost, together_bind_ok (read g) (read h), moved.status]
    refine .ite Iff.rfl (fun _ => together_pure moved) fun _ => ?_
    exact (moved.step shift).bind fun _ _ _ moved => ih moved

/-- A choice is taken after the same time. -/
theorem checkTimeout (moved : g.Shifted f h) :
    Together (Shifted f) Action.checkTimeout Action.checkTimeout g h := by
  unfold Action.checkTimeout
  rw [together_get, moved.menu, moved.state, State.choice_shift, moved.now]
  cases g.state.choice with
  | none => exact together_pure moved
  | some choice =>
    cases g.menu with
    | some menu => exact together_pure moved
    | none =>
      simp only [Option.map_some, Choice.mapTime, shift.between]
      split
      · exact together_pure moved
      · refine .ite Iff.rfl (fun _ => together_pure moved) fun _ => ?_
        exact (moved.log _ _).bind fun _ _ _ moved => moved.choose _

theorem passTime (moved : g.Shifted f h) :
    Together (Shifted f) Action.passTime Action.passTime g h := by
  unfold Action.passTime
  rw [together_get, moved.now, moved.voicePlaying]
  refine moved.change_bind ?_ fun _ _ moved => ?_
  · rw [State.expire_shift _ shift, State.moveSprites_shift _ shift]
  · refine moved.updateVideo.bind fun _ g _ moved => ?_
    rw [together_state, moved.state, State.wait_shift, State.video_shift]
    refine .ite ?_ (fun _ => moved.change rfl) fun _ => together_pure moved
    cases g.state.wait with
    | none => rfl
    | some wait => cases wait <;> rfl

/-- A frame is the same when its moment is moved with all others. -/
theorem frame (moved : g.Shifted f h) (events : List Event) (now : τ) :
    Together (Shifted f) (Action.frame events now) (Action.frame events (f now)) g h := by
  have handled : ∀ (events : List Event) (g h : Game τ), g.Shifted f h →
      Together (Shifted f) (events.forM Action.handle) (events.forM Action.handle) g h := by
    intro events
    induction events with
    | nil => exact fun _ _ moved => together_pure moved
    | cons event rest ih =>
      exact fun g h moved => (moved.handle shift event).bind fun _ => ih
  have begun : ({ g with now } : Game τ).Shifted f { h with now := f now } := by
    obtain ⟨rfl, player⟩ := moved
    exact ⟨rfl, player⟩
  unfold Action.frame
  refine (together_bind_ok rfl rfl).mpr ((handled events _ _ begun).bind fun _ _ _ moved => ?_)
  refine (moved.checkTimeout shift).bind fun _ g h moved => ?_
  rw [together_get, moved.status, moved.menu]
  refine .ite ?_ (fun _ => together_pure moved) fun _ => ?_
  · rw [moved.state]
    simp [State.isOverlaid]
  · exact (moved.passTime shift).bind fun _ _ _ moved => moved.runAtMost shift _

end Commands

end Game.Shifted

/-! ## 7. Sessions -/

/-- What an operation gives back. -/
inductive Reply where
  | nothing
  | status (status : Status)
  | done (done : Bool)
  | page (number : Float)
  | path (path : Option Text)
  deriving DecidableEq, Repr

namespace Operation

variable [Clock τ]

/-- The action of an operation, with what it gives back. -/
def reply : Operation τ → Action τ Reply
  | .frame events now => return .status (← Action.frame events now)
  | .run => return .status (← Action.run)
  | .advance => return .done (← Action.advance)
  | .scroll delta => return .page (← Action.scroll delta)
  | .openPauseMenu => return .done (← Action.openPauseMenu)
  | .save slot => return .path (← Action.save slot)
  | .load slot => return .done (← Action.load slot)
  | .restore data => return .done (← Action.restore data)
  | op => do
    op.action
    return .nothing

/-- The operation at another time: the moment of a frame is changed. -/
def shift (f : τ → τ) : Operation τ → Operation τ
  | .frame events now => .frame events (f now)
  | op => op

/-- The reply is what the action of the operation leaves out. -/
theorem action_eq (op : Operation τ) :
    op.action = op.reply >>= fun _ => pure () := by
  cases op <;> simp [action, reply]

end Operation

/-- A session as its driver sees it: the answer to each operation, and the game after it. -/
def history [Clock τ] : List (Operation τ) → Game τ → List (Except Failure Reply × Game τ)
  | [], _ => []
  | op :: rest, g => (op.reply.outcome g, op.after g) :: history rest (op.after g)

section Sessions

variable [Clock τ] {f : τ → τ} {g h : Game τ} (shift : Clock.Shift f)

include shift

/-- An operation does and gives the same at another time. -/
theorem Game.Shifted.reply (moved : g.Shifted f h) (op : Operation τ) :
    Together (Shifted f) op.reply (op.shift f).reply g h := by
  have gives : ∀ {α : Type} {m n : Action τ α} (give : α → Reply), Together (Shifted f) m n g h →
      Together (Shifted f) (do return give (← m)) (do return give (← n)) g h :=
    fun give both => both.bind fun _ _ _ moved => together_pure moved
  have quiet : ∀ {m n : Action τ Unit}, Together (Shifted f) m n g h →
      Together (Shifted f) (do m; return Reply.nothing) (do n; return Reply.nothing) g h :=
    fun both => both.bind fun _ _ _ moved => together_pure moved
  cases op with
  | frame events now => exact gives _ (moved.frame shift events now)
  | run => exact gives _ (moved.runAtMost shift commandLimit)
  | jump target => exact quiet (moved.jump target)
  | choose pick => exact quiet (moved.choose pick)
  | submit text => exact quiet (moved.submit text)
  | advance => exact gives _ moved.advance
  | toggleInventory => exact quiet moved.toggleInventory
  | scroll delta => exact gives _ (moved.scroll delta)
  | openPauseMenu => exact gives _ moved.openPauseMenu
  | takeMenuAction name => exact quiet (moved.takeMenuAction shift name)
  | setMenu menu => exact quiet (moved.setMenu menu)
  | restart => exact quiet moved.restart
  | save slot => exact gives _ (moved.save shift slot)
  | load slot => exact gives _ (moved.load shift slot)
  | restore data => exact gives _ (moved.restore shift data)
  | setVoice playing => exact quiet (moved.around rfl rfl)
  | close => exact quiet moved.closeVideo

/-- The answer to an operation and the game after it are the same at another time. -/
theorem Game.Shifted.after (moved : g.Shifted f h) (op : Operation τ) :
    op.reply.outcome g = (op.shift f).reply.outcome h ∧
      (op.after g).Shifted f ((op.shift f).after h) := by
  have acts : Together (Shifted f) op.action (op.shift f).action g h := by
    rw [op.action_eq, (op.shift f).action_eq]
    exact (moved.reply shift op).bind fun _ _ _ moved => together_pure moved
  have left : ∀ (op : Operation τ) (g : Game τ), op.after g = op.action.leaves g := by
    intro op g
    unfold Operation.after Action.leaves
    cases op.action g <;> rfl
  rw [left, left]
  exact ⟨(moved.reply shift op).ends.1, acts.ends.2⟩

theorem history_shift (moved : g.Shifted f h) (ops : List (Operation τ)) :
    history (ops.map (·.shift f)) h = (history ops g).map fun (reply, t) => (reply, t.shift f) := by
  induction ops generalizing g h with
  | nil => rfl
  | cons op rest ih =>
    obtain ⟨same, moved⟩ := moved.after shift op
    rw [List.map_cons, history, history, List.map_cons, ih moved, ← same, moved.same]

end Sessions

/-- A session that is held later is the same session. Where all moments are put off by one delay,
those of the frames and those that the first game remembers, each operation gives the same answer or
fails in the same way, and leaves the same game but for the delay: it waits for the same, has asked
for the same assets, has the same files and the same log, and is saved as the same snapshot. -/
theorem history_delayed [Clock τ] (even : Clock.Even τ) (delay : τ) (ops : List (Operation τ))
    {g : Game τ} (player : g.setup.videoPlayer = none) :
    let later := fun moment => Clock.add moment delay
    history (ops.map (·.shift later)) (g.shift later) =
        (history ops g).map (fun (reply, t) => (reply, t.shift later)) ∧
      ∀ t : Game τ, (t.shift later).status = t.status ∧ (t.shift later).requests = t.requests ∧
        (t.shift later).files = t.files ∧ (t.shift later).logs = t.logs ∧
        (t.shift later).snapshot = t.snapshot := by
  intro later
  refine ⟨history_shift (even delay) ⟨rfl, player⟩ ops, fun t => ?_⟩
  refine ⟨t.status_shift later, rfl, rfl, rfl, ?_⟩
  exact Snapshot.ofState_shift (even delay) t.now t.state _

/-- A story in which time passes: a notice, a sprite that comes slowly and moves, a pause, and a
choice that is taken by itself. -/
def timedStory : Program :=
  { script := "/game/main.vn"
    commands := #[
      .notify "Soon." (some 2.0),
      .show { name := "moon", kind := .rect, value := "#ffffff", transition := { fade := some 1.5 } },
      .animate "moon" (.move ⟨100.0, 0.0⟩) 3.0 .linear,
      .wait 1.0,
      .choice "Now?" [⟨"Yes", "done"⟩] (some 5.0) none,
      .label "done",
      .say none "Done."]
    labels := ⟨[("done", 5)]⟩ }

/-- The story in its pause, on the clock of whole milliseconds. -/
def pausedGame : Game Int := Operation.run.after (gameIn (soloFiles "") timedStory)

/-- The frames, saves and loads of the player. -/
def timedSession : List (Operation Int) :=
  [.frame [] 900, .frame [] 1000, .save none, .frame [] 5999, .load none, .frame [] 8000,
    .frame [] 10999, .choose (.nth 3)]

/-- A day later, the pause and the choice take the same time, also after the save is loaded. -/
theorem history_delayed_day :
    (history (timedSession.map (·.shift fun moment => Clock.add moment 86400000))
        (pausedGame.shift fun moment => Clock.add moment 86400000)).map (·.1) =
      [.ok (.status .waitingTimer), .ok (.status .waitingChoice), .ok (.path (some "/game/quick.json")),
        .ok (.status .waitingChoice), .ok (.done true), .ok (.status .waitingChoice),
        .ok (.status .dialogue), .error (.play .noPendingChoice)] := by
  rw [(history_delayed Clock.even_int 86400000 timedSession (g := pausedGame) rfl).1, List.map_map]
  decide +kernel

end VisualNovel
