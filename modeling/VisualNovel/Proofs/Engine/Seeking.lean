import VisualNovel.Proofs.Engine.Loading
import VisualNovel.Proofs.Engine.Selection
import VisualNovel.Proofs.Relay.Twin

/-!
Names that are looked up.

Only a jump needs to know where a name leads: it looks up the label, or for the reserved name whether
the inventory can be opened. So the names that an action passes to jumps can be told from outside. The
action *seeks only* names of a kind if it ends alike in any two games in which these names lead to the
same places, wherever all other names lead (`Action.SeeksOnly`). Together with this the exits are
followed that an action leaves behind (`Action.Confined`), so that one look at each action settles
both.
-/

namespace VisualNovel

variable {τ α β : Type} {N : Text → Prop} {A : Exit → Prop}

/-! ## 1. Games in which names lead elsewhere -/

/-- The game with other labels in its program, and with an inventory that can be opened or not. -/
def Game.leading (g : Game τ) (labels : Table Nat) (items : Bool) : Game τ :=
  { g with
    program := { g.program with labels }
    setup := { g.setup with features := { g.setup.features with items } } }

/-- Two games in which names of a kind lead to the same places. Other names may lead elsewhere, and all
else is the same. -/
def Game.AgreeOn (N : Text → Prop) (g h : Game τ) : Prop :=
  ∃ labels items, h = g.leading labels items ∧
    (∀ name, N name → name ≠ inventoryToggle →
      labels.get? name = g.program.labels.get? name) ∧
    (N inventoryToggle → items = g.setup.features.items)

theorem Game.AgreeOn.refl (g : Game τ) : g.AgreeOn N g :=
  ⟨g.program.labels, g.setup.features.items, rfl, fun _ _ _ => rfl, fun _ => rfl⟩

/-- Two games that agree on names, and have exits of a kind. -/
structure Game.Alike (N : Text → Prop) (A : Exit → Prop) (g h : Game τ) : Prop where
  agree : g.AgreeOn N h
  exits : g.state.ExitsIn A

/-- A change of the game outside of its program and its setup. -/
theorem Game.Alike.update {g h : Game τ} (alike : g.Alike N A h) {f : Game τ → Game τ}
    (same : ∀ labels items, f (g.leading labels items) = (f g).leading labels items)
    (program : (f g).program = g.program) (setup : (f g).setup = g.setup)
    (exits : g.state.ExitsIn A → (f g).state.ExitsIn A) : (f g).Alike N A (f h) := by
  obtain ⟨⟨labels, items, rfl, known, opens⟩, old⟩ := alike
  refine ⟨⟨labels, items, same labels items, ?_, ?_⟩, exits old⟩
  · rw [program]
    exact known
  · rw [setup]
    exact opens

/-- A change of the game that takes up another program, in which names lead to the same places again. -/
theorem Game.Alike.enter {g h : Game τ} (alike : g.Alike N A h) {f : Game τ → Game τ}
    (same : ∀ labels items,
      f (g.leading labels items) = (f g).leading (f g).program.labels items)
    (setup : (f g).setup = g.setup)
    (exits : g.state.ExitsIn A → (f g).state.ExitsIn A) : (f g).Alike N A (f h) := by
  obtain ⟨⟨labels, items, rfl, -, opens⟩, old⟩ := alike
  refine ⟨⟨_, items, same labels items, fun _ _ _ => rfl, ?_⟩, exits old⟩
  rw [setup]
  exact opens

namespace Action

/-- An action looks up only names of a kind: in games that agree on these it ends alike, and leaves
games that agree on them. -/
def SeeksOnly (N : Text → Prop) (m : Action τ α) (g : Game τ) : Prop :=
  ∀ h, g.AgreeOn N h → Together (Game.AgreeOn N) m m g h

/-- An action looks up only names of a kind, and leaves only exits of a kind if there were no others
before. -/
def Confined (N : Text → Prop) (A : Exit → Prop) (m : Action τ α) (g : Game τ) : Prop :=
  ∀ h, g.Alike N A h → Together (Game.Alike N A) m m g h

variable {g : Game τ} {m : Action τ α}

theorem Together.mono {R S : Game τ → Game τ → Prop} {n : Action τ α} {h : Game τ}
    (both : Together R m n g h) (weaker : ∀ g h, R g h → S g h) : Together S m n g h := by
  rcases both with ⟨a, u, v, left, right, related⟩ | ⟨e, u, v, left, right, related⟩
  · exact .ok left right (weaker u v related)
  · exact .error left right (weaker u v related)

theorem Confined.seeksOnly (h : m.Confined N (fun _ => True) g) : m.SeeksOnly N g := by
  intro k agree
  have open_ : g.state.ExitsIn fun _ => True := State.exitsIn_iff.mpr fun _ _ => trivial
  exact (h k ⟨agree, open_⟩).mono fun _ _ alike => alike.agree

/-- The exits after an action, whether it succeeds or fails. -/
theorem Confined.keeps (h : m.Confined N A g) (exits : g.state.ExitsIn A) :
    Keeps (fun t => t.state.ExitsIn A) (fun _ => True) m g := by
  unfold Keeps Ends
  rcases h g ⟨.refl g, exits⟩ with ⟨a, u, v, left, -, alike⟩ | ⟨e, u, v, left, -, alike⟩
  · rw [left]
    exact alike.exits
  · rw [left]
    exact ⟨alike.exits, trivial⟩

/-! ## 2. One action after another -/

theorem Confined.bind {f : α → Action τ β} (first : m.Confined N A g)
    (second : ∀ a t, m g = .ok a t → (f a).Confined N A t) : (m >>= f).Confined N A g := by
  intro h alike
  rcases first h alike with ⟨a, t, u, left, right, alike⟩ | ⟨e, t, u, left, right, alike⟩
  · exact (together_bind_ok left right).mpr (second a t left u alike)
  · exact .error (run_bind_error left) (run_bind_error right) alike

theorem confined_pure (a : α) : (pure a : Action τ α).Confined N A g := fun _ => together_pure

theorem Confined.only (h : m.Confined N A g) : (do let _ ← m : Action τ Unit).Confined N A g :=
  h.bind fun _ _ _ => confined_pure _

theorem Confined.ite {c : Prop} [Decidable c] {n : Action τ α} (yes : c → m.Confined N A g)
    (no : ¬ c → n.Confined N A g) : (if c then m else n).Confined N A g := fun h alike =>
  .ite Iff.rfl (fun holds => yes holds h alike) fun fails => no fails h alike

theorem confined_throw (e : Failure) : (throw e : Action τ α).Confined N A g := fun _ alike =>
  .error rfl rfl alike

theorem confined_fail (problem : PlayProblem) : (fail problem : Action τ α).Confined N A g :=
  confined_throw _

/-- What goes on with a game that has been looked at, if it does not look where names lead. -/
theorem confined_get {f : Game τ → Action τ β}
    (same : ∀ labels items, f (g.leading labels items) = f g) (rest : (f g).Confined N A g) :
    (get >>= f).Confined N A g := by
  intro h alike
  rw [together_get]
  obtain ⟨⟨labels, items, rfl, -⟩, -⟩ := id alike
  rw [same]
  exact rest _ alike

theorem confined_state {f : State τ → Action τ β} (rest : (f g.state).Confined N A g) :
    (state >>= f).Confined N A g := by
  intro h alike
  rw [together_state]
  obtain ⟨⟨labels, items, rfl, -⟩, -⟩ := id alike
  exact rest _ alike

/-- An action that always succeeds with a change outside of the program and the setup. -/
theorem confined_update {a : α} {f : Game τ → Game τ} (runs : ∀ k, m k = .ok a (f k))
    (same : ∀ labels items, f (g.leading labels items) = (f g).leading labels items)
    (program : (f g).program = g.program) (setup : (f g).setup = g.setup)
    (exits : g.state.ExitsIn A → (f g).state.ExitsIn A) : m.Confined N A g := fun h alike =>
  .ok (runs g) (runs h) (alike.update same program setup exits)

/-- An action that always succeeds and takes up another program. -/
theorem confined_enter {a : α} {f : Game τ → Game τ} (runs : ∀ k, m k = .ok a (f k))
    (same : ∀ labels items, f (g.leading labels items) = (f g).leading (f g).program.labels items)
    (setup : (f g).setup = g.setup)
    (exits : g.state.ExitsIn A → (f g).state.ExitsIn A) : m.Confined N A g := fun h alike =>
  .ok (runs g) (runs h) (alike.enter same setup exits)

theorem confined_modify {f : Game τ → Game τ}
    (same : ∀ labels items, f (g.leading labels items) = (f g).leading labels items)
    (program : (f g).program = g.program) (setup : (f g).setup = g.setup)
    (exits : g.state.ExitsIn A → (f g).state.ExitsIn A) :
    (modify f : Action τ PUnit).Confined N A g :=
  confined_update (fun _ => rfl) same program setup exits

/-- A change of the state that makes only exits of the kind. -/
theorem confined_change {f : State τ → State τ}
    (exits : g.state.ExitsIn A → (f g.state).ExitsIn A) : (change f).Confined N A g :=
  confined_modify (fun _ _ => rfl) rfl rfl exits

theorem confined_request (r : AssetRequest) : (request r : Action τ Unit).Confined N A g :=
  confined_modify (fun _ _ => rfl) rfl rfl id

theorem confined_log (level : LogLevel) (message : Text) :
    (log level message : Action τ Unit).Confined N A g :=
  confined_modify (fun _ _ => rfl) rfl rfl id

theorem confined_logAll (records : List LogRecord) :
    (logAll records : Action τ Unit).Confined N A g :=
  confined_modify (fun _ _ => rfl) rfl rfl id

theorem confined_setMenu (menu : Option Menu) : (setMenu menu : Action τ Unit).Confined N A g :=
  confined_modify (fun _ _ => rfl) rfl rfl id

theorem confined_if {c : Prop} [Decidable c] {m : Action τ Unit} (h : c → m.Confined N A g) :
    (if c then m else pure ()).Confined N A g := .ite h fun _ => confined_pure _

theorem confined_passOn (fault : Fault) : (passOn fault : Action τ Unit).Confined N A g :=
  .ite (fun _ => confined_throw _) fun _ => confined_pure _

/-! ## 3. Jumps -/

theorem confined_toggleInventory : (toggleInventory : Action τ Unit).Confined N A g :=
  confined_change fun exits => { exits with }

/-- A jump looks up the name of its target. -/
theorem confined_jump {target : Text} (known : N (stripRootMark target)) :
    (jump target : Action τ Unit).Confined N A g := by
  intro h alike
  obtain ⟨⟨labels, items, rfl, agree, opens⟩, -⟩ := id alike
  unfold jump
  simp only
  rw [together_get]
  refine .ite Iff.rfl (fun reserved => ?_) fun other => ?_
  · rw [show (g.leading labels items).setup.features.items = g.setup.features.items from
      opens (reserved ▸ known)]
    exact confined_if (fun _ => confined_toggleInventory) _ alike
  · rw [show (g.leading labels items).program.labels.get? _ = _ from agree _ known other]
    split
    · exact confined_change (fun exits => { exits with }) _ alike
    · exact ((confined_log _ _).bind fun _ _ _ => confined_fail _) _ alike

/-! ## 4. Small actions -/

theorem confined_closeVideo : (closeVideo : Action τ Unit).Confined N A g :=
  confined_update closeVideo_eq (fun _ _ => rfl) rfl rfl fun exits => { exits with }

theorem confined_scroll (delta : Float) : (scroll delta : Action τ Float).Confined N A g :=
  confined_get (fun _ _ => rfl) <| (confined_change fun exits => { exits with }).bind
    fun _ _ _ => confined_state (confined_pure _)

theorem confined_submit (text : Option Text) : (submit text : Action τ Unit).Confined N A g := by
  unfold submit
  refine confined_state ?_
  split
  · exact confined_fail _
  · exact confined_change fun exits => { exits with }

theorem confined_openPauseMenu : (openPauseMenu : Action τ Bool).Confined N A g := by
  unfold openPauseMenu
  refine confined_get (fun _ _ => rfl) (.ite (fun _ => confined_pure _) fun _ => ?_)
  exact (confined_setMenu _).bind fun _ _ _ => confined_pure _

/-! ## 5. Parts of commands -/

theorem confined_showSprite (spec : SpriteSpec) : (showSprite spec : Action τ Unit).Confined N A g := by
  unfold showSprite
  refine confined_get (fun _ _ => rfl) ?_
  simp only
  split
  · refine (confined_request _).bind fun _ _ _ => (confined_pure _).bind fun _ _ _ => ?_
    exact confined_change fun exits => { exits with }
  · refine (confined_request _).bind fun _ _ _ => (confined_pure _).bind fun _ _ _ => ?_
    exact confined_change fun exits => { exits with }

theorem confined_showCharacter (spec : CharacterShow) :
    (showCharacter spec : Action τ Unit).Confined N A g := by
  unfold showCharacter
  refine confined_get (fun _ _ => rfl) ?_
  split
  · exact confined_log _ _
  · split
    · exact confined_log _ _
    · refine (confined_request _).bind fun _ _ _ => ?_
      exact confined_change fun exits => { exits with }

theorem confined_hideSprite (name : Text) (spec : TransitionSpec) :
    (hideSprite name spec : Action τ Unit).Confined N A g := by
  unfold hideSprite
  refine confined_get (fun _ _ => rfl) (.ite (fun _ => confined_change fun exits => ?_) fun _ => ?_)
  · obtain ⟨_, _, same⟩ := g.state.hideSprite_frame name (Transition.ofSpec spec g.now)
    rw [same]
    exact { exits with }
  · exact confined_log _ _

theorem confined_animate (name : Text) (goal : AnimationGoal) (seconds : Float) (ease : Ease) :
    (animate name goal seconds ease : Action τ Unit).Confined N A g := by
  unfold animate
  refine confined_get (fun _ _ => rfl) ?_
  split
  · exact confined_log _ _
  · next sprite _ =>
    refine confined_change fun exits => ?_
    obtain ⟨_, _, same⟩ := g.state.animate_frame name sprite goal seconds ease g.now
    rw [same]
    exact { exits with }

theorem confined_clearCache (target : CacheTarget) :
    (clearCache target : Action τ Unit).Confined N A g := by
  have library : ∀ {k : Game τ} (f : Library → Library),
      (modify fun game => { game with library := f game.library } : Action τ PUnit).Confined N A k :=
    fun f => confined_modify (fun _ _ => rfl) rfl rfl id
  unfold clearCache
  split
  · exact confined_request _
  · exact library _
  · refine confined_get (fun _ _ => rfl) (Confined.bind (library fun old => old.evict _) fun _ _ _ => ?_)
    exact confined_if fun _ => confined_change fun exits => { exits with }
  · refine Confined.bind (library _) fun _ _ _ => ?_
    have hidden : ∀ k : Game τ, (change fun s => { s.clearSprites with hotspots := {} } :
        Action τ Unit).Confined N A k := fun _ =>
      confined_change fun exits => { exits with hotspots := nofun }
    refine (hidden _).bind fun _ _ _ => confined_closeVideo.bind fun _ _ _ => ?_
    exact confined_change fun exits => { exits with }

theorem confined_collect : (collect : Action τ Unit).Confined N A g :=
  confined_get (fun _ _ => rfl) ((confined_request _).bind fun _ _ _ => confined_request _)

theorem confined_watch (player : VideoPlayer τ) (playback : Playback τ) :
    (watch player playback).Confined N A g :=
  (confined_request _).bind fun _ _ _ => confined_get (fun _ _ => rfl) (confined_pure _)

theorem confined_playVideo (path : Text) (loop : Bool) (fit : VideoFit) :
    (playVideo path loop fit : Action τ Unit).Confined N A g := by
  unfold playVideo
  refine confined_closeVideo.bind fun _ _ _ => confined_get (fun _ _ => rfl) ?_
  split
  · exact confined_log _ _
  · refine (confined_request _).bind fun _ _ _ => (confined_watch _ _).bind fun _ _ _ => ?_
    refine (confined_change fun exits => { exits with }).bind fun _ _ _ => ?_
    exact confined_if fun _ => confined_closeVideo

/-- A call looks up its entry label, in the program of another script. -/
theorem confined_callScript {path label : Text} (known : N (stripRootMark label)) :
    (callScript path label : Action τ Unit).Confined N A g := by
  intro h alike
  obtain ⟨⟨labels, items, rfl, -⟩, -⟩ := id alike
  unfold callScript
  rw [together_get]
  let loaded := g.library.load g.files path
  have stocked := alike.update (f := fun k => { k with library := loaded.library })
    (fun _ _ => rfl) rfl rfl id
  refine (together_bind_ok rfl rfl).mpr (((confined_logAll _).bind fun _ _ _ => ?_) _ stocked)
  split
  · exact confined_throw _
  · next edition _ =>
    refine Confined.bind (confined_enter (fun _ => rfl) (fun _ _ => rfl) rfl id) fun _ t _ => ?_
    refine (confined_change fun exits => ?_).bind fun _ _ _ => confined_jump known
    exact { exits.introduceAll edition.program with }

/-- A map takes up the points that follow. -/
theorem confined_showMap {image : Text}
    (following : ∀ point ∈ leadingPoints (g.state.index.suffix g.program.commands.toList),
      A (.point point)) :
    (showMap image : Action τ Unit).Confined N A g :=
  confined_get (fun _ _ => rfl) <| confined_change fun exits =>
    { exits with points := fun point mem => following point (List.mem_toArray.mp mem) }

/-! ## 6. Saving and loading -/

theorem confined_savedProgram {script : Text} (other : script ≠ Path.absolute g.program.script) :
    (savedProgram script : Action τ (Option Program)).Confined N A g := by
  intro h alike
  obtain ⟨⟨labels, items, rfl, -⟩, -⟩ := id alike
  unfold savedProgram
  rw [together_get]
  refine .ite Iff.rfl (fun own => absurd own other) fun _ => ?_
  let loaded := g.library.load g.files script
  have stocked := alike.update (f := fun k => { k with library := loaded.library })
    (fun _ _ => rfl) rfl rfl id
  refine (together_bind_ok rfl rfl).mpr (((confined_logAll _).bind fun _ _ _ => ?_) _ stocked)
  split
  · exact confined_pure _
  · exact (confined_passOn _).bind fun _ _ _ => (confined_log _ _).bind fun _ _ _ => confined_pure _

variable [Clock τ]

theorem confined_resumeFrom {data : Snapshot τ} (saved : data.ExitsIn A) (program : Program) :
    (resumeFrom data program).Confined N A g :=
  confined_enter (fun k => resumeFrom_eq k data program) (fun _ _ => rfl) rfl
    fun _ => (saved.toState _).introduceAll _

/-- A snapshot is gone on from in the program that is played, or in one from the library. Either way
names do not matter, and the exits are those of the snapshot. -/
theorem confined_restore {data : Snapshot τ} (saved : data.ExitsIn A) :
    (restore data).Confined N A g := by
  unfold restore
  refine confined_get (fun _ _ => rfl) ?_
  by_cases own : Path.fromProject g.setup.root data.script = Path.absolute g.program.script
  · -- The programs differ in their labels, of which a snapshot takes no notice.
    have found : ∀ k : Game τ, k.program.script = g.program.script →
        savedProgram (Path.fromProject g.setup.root data.script) k = .ok (some k.program) k := by
      intro k same
      rw [savedProgram, run_bind_ok (run_get k), same, if_pos own]
      rfl
    intro h alike
    obtain ⟨⟨labels, items, rfl, known, opens⟩, -⟩ := id alike
    refine (together_bind_ok (found g rfl) (found (g.leading labels items) rfl)).mpr ?_
    refine .ite Iff.rfl (fun _ => ?_) fun _ => ?_
    · exact ((confined_log _ _).bind fun _ _ _ => confined_pure _) _ alike
    · refine (together_bind_ok (resumeFrom_eq _ _ _) (resumeFrom_eq _ _ _)).mpr (together_pure ?_)
      exact ⟨⟨labels, items, rfl, known, opens⟩, (saved.toState _).introduceAll _⟩
  · refine (confined_savedProgram own).bind fun found t _ => ?_
    split
    · exact confined_pure _
    · refine .ite (fun _ => ?_) fun _ => ?_
      · exact (confined_log _ _).bind fun _ _ _ => confined_pure _
      · exact (confined_resumeFrom saved _).bind fun _ _ _ => confined_pure _

/-- A load brings the exits of a snapshot in its file, and looks up no name. -/
theorem confined_load {slot : Option Text}
    (saved : ∀ data, (SaveSource.file slot).Gives g data → data.ExitsIn A) :
    (load slot : Action τ Bool).Confined N A g := by
  unfold load slotFile
  refine Confined.bind (confined_get (fun _ _ => rfl) (confined_pure _)) fun path t named => ?_
  cases named
  unfold loadFrom
  refine confined_get (fun _ _ => rfl) ?_
  split
  next data? logs found =>
    refine (confined_logAll _).bind fun _ _ _ => ?_
    split
    · exact confined_pure _
    · next data =>
      exact confined_restore (saved _ ⟨data, congrArg Prod.fst found, rfl⟩)

theorem confined_save (slot : Option Text) :
    (save slot : Action τ (Option Text)).Confined N A g := by
  unfold save slotFile saveTo snapshot
  refine Confined.bind (confined_get (fun _ _ => rfl) (confined_pure _)) fun path t _ => ?_
  refine Confined.bind (confined_get (fun _ _ => rfl) (confined_pure _)) fun data t _ => ?_
  intro h alike
  obtain ⟨⟨labels, items, rfl, -⟩, -⟩ := id alike
  rw [together_get]
  let written := (data.mapTime Clock.toMillis).save t.files path
  have stored := alike.update (f := fun k => { k with files := written.files })
    (fun _ _ => rfl) rfl rfl id
  refine (together_bind_ok rfl rfl).mpr (((confined_logAll _).bind fun _ _ _ => ?_) _ stored)
  split
  · exact confined_throw _
  · exact confined_pure _
  · exact (confined_log _ _).bind fun _ _ _ => confined_pure _

end Action

/-! ## 7. Commands -/

/-- The names that a command looks up: those of its targets, and for a call that of its entry label. -/
def Command.Seeks (c : Command) (name : Text) : Prop :=
  (∃ target ∈ c.targets, stripRootMark target = name) ∨
    ∃ path resolved label, c = .call path resolved label ∧ stripRootMark label = name

/-- The commands that a command does together with itself: a map does the points that follow at
once. -/
def Command.group (g : Game τ) : Command → List Command
  | .showMap image =>
    .showMap image ::
      (g.state.index.suffix g.program.commands.toList).takeWhile (· matches .mapPoint ..)
  | c => [c]

/-- Exits that a command brings into a game. -/
def Command.Puts [Clock τ] (c : Command) (g : Game τ) (x : Exit) : Prop :=
  (∃ d ∈ c.group g, ∃ fill, x ∈ d.exits fill) ∨
    ∃ slot data, c = .load slot ∧ (SaveSource.file slot).Gives g data ∧ x ∈ data.exits

namespace Action

variable [Clock τ] {g : Game τ}

/-- A command looks up no other names than its own, and brings no other exits. -/
theorem confined_execute {c : Command} (seeks : ∀ name, c.Seeks name → N name)
    (puts : ∀ x, c.Puts g x → A x) : (execute c : Action τ Unit).Confined N A g := by
  have asked : ∀ {k : Game τ} (f : State τ → State τ) r,
      (k.state.ExitsIn A → (f k.state).ExitsIn A) →
      (do change f; request r : Action τ Unit).Confined N A k :=
    fun f r exits => (confined_change exits).bind fun _ _ _ => confined_request r
  have turned : ∀ {k : Game τ} (f : State τ → State τ),
      (k.state.ExitsIn A → (f k.state).ExitsIn A) →
      (do change f; let _ ← scroll 0.0 : Action τ Unit).Confined N A k :=
    fun f exits => (confined_change exits).bind fun _ _ _ => (confined_scroll _).only
  have own : ∀ {x} (fill : Text → Text), c.group g = [c] → x ∈ c.exits fill → A x := fun _ alone made =>
    puts _ (.inl ⟨c, alone ▸ List.mem_singleton.mpr rfl, _, made⟩)
  unfold execute
  refine confined_get (fun _ _ => rfl) ?_
  cases c with
  | label => exact confined_pure _
  | say | camera | notify | blend | beginLoading | endLoading | define | input |
    openPhone | closePhone | hideMap | debugHotspots | addVariable | showMeter |
    hideMeter | updateMeter | clearMeters => exact confined_change fun exits => { exits with }
  | choice prompt options timeout timeoutDefault =>
    refine confined_change fun exits => { exits with options := ?_ }
    rintro c ⟨⟩ o inside
    exact own (interpolate g.state.vars) rfl (List.mem_map.mpr (by simpa using inside))
  | jump target => exact confined_jump (seeks _ (.inl ⟨target, List.mem_cons_self, rfl⟩))
  | scene =>
    refine .ite (fun _ => (confined_request _).bind fun _ _ _ => ?_) fun _ => ?_
    · exact confined_change fun exits => { exits with }
    · exact confined_change fun exits => { exits with }
  | «show» sprite => exact confined_showSprite sprite
  | showCharacter appearance => exact confined_showCharacter appearance
  | hide name transition => exact confined_hideSprite name transition
  | animate name goal seconds ease => exact confined_animate name goal seconds ease
  | stopAnimation name => cases name <;> exact confined_change fun exits => { exits with }
  | music | echo | stopEcho => exact asked _ _ fun exits => { exits with }
  | sound | voice | preload | pin | unpin => exact confined_request _
  | mute =>
    have echo : ∀ {p : Prop} [Decidable p] {k : Game τ},
        (if p then change fun s => { s with echo := none } else pure () : Action τ Unit).Confined
          N A k := confined_if fun _ => confined_change fun exits => { exits with }
    refine (confined_request _).bind fun _ _ _ => .ite (fun _ => ?_) fun _ => echo
    exact (confined_change fun exits => { exits with }).bind fun _ _ _ => echo
  | clearCache target => exact confined_clearCache target
  | collect => exact confined_collect
  | wait | waitVoice | waitVideo =>
    exact confined_if fun _ => confined_change fun exits => { exits with }
  | save slot => exact (confined_save slot).only
  | load slot =>
    refine (confined_load fun data given => Snapshot.exitsIn_iff.mpr fun x held => ?_).only
    exact puts x (.inr ⟨slot, data, rfl, given, held⟩)
  | setVariable =>
    simp only
    split
    · exact confined_change fun exits => { exits with }
    · exact confined_log _ _
  | jumpIf name op value target =>
    exact confined_if fun _ => confined_jump (seeks _ (.inl ⟨target, List.mem_cons_self, rfl⟩))
  | call path resolved label =>
    exact confined_callScript (seeks _ (.inr ⟨path, resolved, label, rfl, rfl⟩))
  | phoneMessage =>
    refine .ite (fun _ => (confined_log _ _).bind fun _ _ _ => ?_) fun _ => ?_
    · exact confined_change fun exits => { exits with }
    · exact confined_change fun exits => { exits with }
  | addItem => exact turned _ fun exits => { exits with }
  | removeItem id amount =>
    refine turned _ fun exits => ?_
    obtain ⟨_, same⟩ := g.state.takeItem_frame id amount
    rw [same]
    exact { exits with }
  | clearItems => exact turned _ fun exits => { exits with }
  | showMap image =>
    refine confined_showMap fun point mem => ?_
    obtain ⟨d, following, made⟩ := mem_leadingPoints mem id
    exact puts _ (.inl ⟨d, List.mem_cons_of_mem _ following, id, made⟩)
  | mapPoint title pos corners target =>
    refine confined_change fun exits => { exits with points := fun point inside => ?_ }
    rcases Array.mem_push.mp inside with old | rfl
    · exact exits.points point old
    · exact own id rfl (List.mem_singleton.mpr rfl)
  | playVideo path loop fit => exact confined_playVideo path loop fit
  | stopVideo => exact confined_closeVideo
  | hotspot name shape target =>
    refine confined_change fun exits => { exits with hotspots := fun hotspot inside => ?_ }
    rcases Table.mem_values_set inside with rfl | old
    · exact own id rfl (List.mem_singleton.mpr rfl)
    · exact exits.hotspots hotspot old
  | removeHotspot name =>
    cases name with
    | none => exact confined_change fun exits => { exits with hotspots := nofun }
    | some name =>
      exact confined_change fun exits =>
        { exits with hotspots := fun _ inside => exits.hotspots _ (Table.mem_values_erase inside) }
  | button button =>
    refine .ite (fun _ => confined_change fun exits => ?_) fun _ => confined_log _ _
    refine { exits with buttons := fun other inside => ?_ }
    rcases Table.mem_values_set inside with rfl | old
    · exact own id rfl (List.mem_singleton.mpr rfl)
    · exact exits.buttons other old
  | removeButton name =>
    cases name with
    | none => exact confined_change fun exits => { exits with buttons := nofun }
    | some name =>
      exact confined_change fun exits =>
        { exits with buttons := fun _ inside => exits.buttons _ (Table.mem_values_erase inside) }

end Action
end VisualNovel
