import VisualNovel.Proofs.Relay.Trees
import VisualNovel.Proofs.Story.Regular

/-!
Two games that tell the same story.

A game that goes on from a snapshot is not the game that the snapshot was taken of: its clock shows
another moment, movements and notices are gone, and its library is almost empty. `Game.Twin` says what
the two have in common, which is all that the story and the player get to see. An action does the same
to twins if both succeed with the same value, or both fail in the same way, and either way the games are
twins again (`Action.Together`).

Twins save the same but for their sprites, since a movement that goes on in one game may have ended in
the other.
-/

namespace VisualNovel

variable {τ : Type}

/-! ## 1. Actions side by side -/

namespace Action

variable {α β : Type} {R : Game τ → Game τ → Prop} {g h g' h' : Game τ}

/-- Two actions on two games end alike: both give the same value, or both fail in the same way, and
the games they leave are related. -/
def Together (R : Game τ → Game τ → Prop) (m n : Action τ α) (g h : Game τ) : Prop :=
  (∃ a g' h', m g = .ok a g' ∧ n h = .ok a h' ∧ R g' h') ∨
    ∃ e g' h', m g = .error e g' ∧ n h = .error e h' ∧ R g' h'

theorem Together.ok {m n : Action τ α} {a : α} (left : m g = .ok a g') (right : n h = .ok a h')
    (related : R g' h') : Together R m n g h := .inl ⟨a, g', h', left, right, related⟩

theorem Together.error {m n : Action τ α} {e : Failure} (left : m g = .error e g')
    (right : n h = .error e h') (related : R g' h') : Together R m n g h :=
  .inr ⟨e, g', h', left, right, related⟩

theorem together_get {p q : Game τ → Action τ β} :
    Together R (get >>= p) (get >>= q) g h ↔ Together R (p g) (q h) g h := Iff.rfl

theorem together_state {p q : State τ → Action τ β} :
    Together R (state >>= p) (state >>= q) g h ↔ Together R (p g.state) (q h.state) g h := Iff.rfl

theorem together_bind_ok {m n : Action τ α} {p q : α → Action τ β} {a b : α}
    (left : m g = .ok a g') (right : n h = .ok b h') :
    Together R (m >>= p) (n >>= q) g h ↔ Together R (p a) (q b) g' h' := by
  unfold Together
  rw [run_bind_ok left, run_bind_ok right]

theorem Together.bind_ok {m n : Action τ α} {p q : α → Action τ β} (first : Together R m n g h)
    (second : ∀ a g' h', m g = .ok a g' → n h = .ok a h' → R g' h' → Together R (p a) (q a) g' h') :
    Together R (m >>= p) (n >>= q) g h := by
  rcases first with ⟨a, g', h', left, right, related⟩ | ⟨e, g', h', left, right, related⟩
  · exact (together_bind_ok left right).mpr (second a g' h' left right related)
  · exact .error (run_bind_error left) (run_bind_error right) related

theorem Together.bind {m n : Action τ α} {p q : α → Action τ β} (first : Together R m n g h)
    (second : ∀ a g' h', R g' h' → Together R (p a) (q a) g' h') :
    Together R (m >>= p) (n >>= q) g h :=
  first.bind_ok fun a g' h' _ _ => second a g' h'

theorem Together.of_ok {m n : Action τ α} {a b : α} (both : Together R m n g h)
    (left : m g = .ok a g') (right : n h = .ok b h') : R g' h' := by
  rcases both with ⟨_, _, _, hm, hn, related⟩ | ⟨_, _, _, hm, _, _⟩
  · rw [left] at hm
    rw [right] at hn
    cases hm
    cases hn
    exact related
  · rw [left] at hm
    cases hm

theorem Together.ite {c d : Prop} [Decidable c] [Decidable d] {m n m' n' : Action τ α}
    (same : c ↔ d) (yes : d → Together R m n g h) (no : ¬ d → Together R m' n' g h) :
    Together R (if c then m else m') (if d then n else n') g h := by
  by_cases holds : d
  · rw [if_pos holds, if_pos (same.mpr holds)]
    exact yes holds
  · rw [if_neg holds, if_neg (mt same.mp holds)]
    exact no holds

theorem together_pure {a : α} (related : R g h) : Together R (pure a) (pure a) g h :=
  .ok rfl rfl related

theorem together_fail {problem : PlayProblem} (related : R g h) :
    Together R (fail problem : Action τ α) (fail problem) g h := .error rfl rfl related

theorem together_passOn (fault : Fault) (related : R g h) :
    Together R (passOn fault) (passOn fault) g h :=
  .ite Iff.rfl (fun _ => .error rfl rfl related) fun _ => together_pure related

end Action

/-! ## 2. Programs of a story -/

/-- All programs of a game are told by the files that there were at first, and its own files tell the
same. -/
structure Game.Supplied (files : FileTree) (g : Game τ) : Prop where
  strict : g.library.strict = false
  shelf : ∀ script edition, g.library.shelf.get? script = some edition →
    files.Tells script edition.program
  program : files.Tells g.program.script g.program
  reads : files.Retells g.files

namespace Game.Supplied

variable {files : FileTree} {g : Game τ}

/-- What a game finds for a script of the story is what the files tell, also when they tell nothing. -/
theorem load (supplied : g.Supplied files) {path : Text}
    (named : files.Names (Path.absolute path)) :
    (∃ fault, Program.ofFile files false (.nth 0) (Path.absolute path) = .error fault ∧
      (g.library.load g.files path).result = .error fault) ∨
    ∃ edition, files.Tells (Path.absolute path) edition.program ∧
      (g.library.load g.files path).result = .ok edition := by
  rcases g.library.load_cases g.files path with
    ⟨edition, found, same⟩ | ⟨-, ⟨fault, read, same⟩ | ⟨program, reached, read, -, same⟩⟩
  · exact .inr ⟨edition, supplied.shelf _ _ found, by rw [same]⟩
  · rw [supplied.strict, supplied.reads _ named] at read
    exact .inl ⟨fault, read, by rw [same]⟩
  · rw [supplied.strict, supplied.reads _ named] at read
    exact .inr ⟨_, ⟨reached, read⟩, by rw [same]⟩

/-- A library stays one of the story when a script of the story is loaded. -/
theorem loaded (supplied : g.Supplied files) {path : Text}
    (named : files.Names (Path.absolute path)) :
    ({ g with library := (g.library.load g.files path).library } : Game τ).Supplied files := by
  refine { supplied with strict := ?_, shelf := fun script edition found => ?_ }
  · exact (g.library.strict_load g.files path).trans supplied.strict
  · rcases Library.get?_load found with old | ⟨same, reached, read⟩
    · exact supplied.shelf script edition old
    · rw [same, supplied.strict, supplied.reads _ named] at read
      exact same ▸ ⟨reached, read⟩

/-- The program of a saved script is what the files tell. -/
theorem savedProgram (supplied : g.Supplied files) {script : Text} {program : Program}
    (told : files.Tells script program) (absolute : Path.absolute script = script) :
    ∃ library logs, Action.savedProgram script g = .ok (some program) { g with library, logs } ∧
      ({ g with library } : Game τ).Supplied files := by
  have named : files.Names (Path.absolute script) := .told told
  have read : (get : Action τ (Game τ)) g = .ok g g := rfl
  rw [Action.savedProgram, run_bind_ok read]
  by_cases same : script = Path.absolute g.program.script
  · have own : files.Tells script g.program := same ▸ supplied.program.absolute
    rw [if_pos same, told.unique own]
    exact ⟨g.library, g.logs, rfl, supplied⟩
  · rw [if_neg same]
    have stocked := supplied.loaded named
    rcases supplied.load named with ⟨fault, failed, -⟩ | ⟨edition, found, loaded⟩
    · obtain ⟨_, told⟩ := told.absolute
      rw [failed] at told
      cases told
    · rw [told.unique (absolute ▸ found)]
      refine ⟨(g.library.load g.files script).library,
        g.logs ++ (g.library.load g.files script).logs.toArray, ?_, stocked⟩
      simp only [loaded]
      rfl

end Game.Supplied

/-! ## 3. Twins -/

/-- What a player gets to see of a choice: all of it but the cursor and the moment it began. -/
def Choice.offer (c : Choice τ) : Text × List ChoiceOption × Option Float × Option Ordinal :=
  (c.prompt, c.options, c.timeout, c.timeoutDefault)

/-- What of a background is saved. -/
def Background.saved (b : Background τ) : SavedBackground := ⟨b.kind, b.value, b.floating⟩

/-- Two states of one place of the story. What is not saved, what moves, and the moments at which
something begins or ends may differ. -/
structure State.Twin (s t : State τ) : Prop where
  index : s.index = t.index
  vars : s.vars = t.vars
  characters : s.characters = t.characters
  dialogue : s.dialogue = t.dialogue
  choice : s.choice.map Choice.offer = t.choice.map Choice.offer
  question : s.question = t.question
  wait : s.wait.isSome = t.wait.isSome
  inventory : s.inventory = t.inventory
  inventoryPage : s.inventoryPage = t.inventoryPage
  inventoryOpen : s.inventoryOpen = t.inventoryOpen
  meters : s.meters = t.meters
  hud : s.hud = t.hud
  hotspots : s.hotspots = t.hotspots
  hotspotDebug : s.hotspotDebug = t.hotspotDebug
  map : s.map = t.map
  camera : s.camera = t.camera
  phone : s.phone = t.phone
  music : s.music = t.music
  echo : s.echo = t.echo
  background : s.background.saved = t.background.saved

namespace State.Twin

variable {s t u : State τ}

theorem refl (s : State τ) : s.Twin s := by constructor <;> rfl

theorem trans (h : s.Twin t) (h' : t.Twin u) : s.Twin u where
  index := h.index.trans h'.index
  vars := h.vars.trans h'.vars
  characters := h.characters.trans h'.characters
  dialogue := h.dialogue.trans h'.dialogue
  choice := h.choice.trans h'.choice
  question := h.question.trans h'.question
  wait := h.wait.trans h'.wait
  inventory := h.inventory.trans h'.inventory
  inventoryPage := h.inventoryPage.trans h'.inventoryPage
  inventoryOpen := h.inventoryOpen.trans h'.inventoryOpen
  meters := h.meters.trans h'.meters
  hud := h.hud.trans h'.hud
  hotspots := h.hotspots.trans h'.hotspots
  hotspotDebug := h.hotspotDebug.trans h'.hotspotDebug
  map := h.map.trans h'.map
  camera := h.camera.trans h'.camera
  phone := h.phone.trans h'.phone
  music := h.music.trans h'.music
  echo := h.echo.trans h'.echo
  background := h.background.trans h'.background

/-- Twins offer the same choice, or both offer none. -/
theorem choice_cases (h : s.Twin t) :
    (s.choice = none ∧ t.choice = none) ∨
      ∃ c d, s.choice = some c ∧ t.choice = some d ∧ c.offer = d.offer := by
  have same := h.choice
  cases left : s.choice with
  | none =>
    rw [left] at same
    exact .inl ⟨rfl, Option.map_eq_none_iff.mp same.symm⟩
  | some c =>
    rw [left] at same
    obtain ⟨d, right, offer⟩ := Option.map_eq_some_iff.mp same.symm
    exact .inr ⟨c, d, rfl, right, offer.symm⟩

theorem setVariable (h : s.Twin t) (name : Text) (value : Value) :
    (s.setVariable name value).Twin (t.setVariable name value) :=
  { h with
    vars := congrArg (·.set name value) h.vars
    meters := by simp only [State.setVariable, State.refreshMeter, State.meterValue, h.vars, h.meters] }

theorem refreshMeter (h : s.Twin t) (name : Text) :
    (s.refreshMeter name).Twin (t.refreshMeter name) :=
  { h with meters := by simp only [State.refreshMeter, State.meterValue, h.vars, h.meters] }

theorem scroll (h : s.Twin t) (perPage delta : Float) :
    (s.scroll perPage delta).Twin (t.scroll perPage delta) :=
  { h with
    inventoryPage := by
      simp only [State.scroll, State.pageCount, h.inventory, h.inventoryPage] }

theorem addItem (h : s.Twin t) (id : Text) (item : Item) :
    (s.addItem id item).Twin (t.addItem id item) :=
  { h with inventory := by simp only [State.addItem, h.inventory] }

theorem takeItem (h : s.Twin t) (id : Text) (amount : Float) :
    (s.takeItem id amount).Twin (t.takeItem id amount) := by
  unfold State.takeItem
  rw [h.inventory]
  split
  · exact h
  · exact { h with inventory := rfl }

theorem introduce (h : s.Twin t) (c : Character) : (s.introduce c).Twin (t.introduce c) := by
  unfold State.introduce
  rw [h.characters]
  split
  · exact h
  · exact { h with characters := rfl }

theorem introduceAll (h : s.Twin t) (program : Program) :
    (s.introduceAll program).Twin (t.introduceAll program) := by
  rw [State.introduceAll_eq, State.introduceAll_eq]
  generalize program.commands.toList = commands
  induction commands generalizing s t with
  | nil => exact h
  | cons command rest ih =>
    refine ih ?_
    cases command with
    | define c => exact h.introduce c
    | _ => exact h

end State.Twin

variable [Clock τ]

/-- A choice that was offered just now, with time left to decide. -/
structure Choice.Fresh (now : τ) (c : Choice τ) : Prop where
  began : Clock.sub now c.started = Clock.zero
  time : ∀ timeout ∈ c.timeout, Clock.lt (Clock.zero : τ) (Clock.ofMillis timeout) = true

/-- A game that is played without a screen: no menu, no voice, no video, and only waits that the runner
can skip. All its programs are told by the files that there were at first. Its own files hold these and
saves of the story, and whatever it saves, the scripts of the story stay the same. -/
structure Game.Quiet (files : FileTree) (g : Game τ) : Prop where
  menu : g.menu = none
  silent : g.voicePlaying = false
  player : g.setup.videoPlayer = none
  strict : g.library.strict = false
  shelf : ∀ script edition, g.library.shelf.get? script = some edition →
    files.Tells script edition.program
  program : files.Tells g.program.script g.program
  steady : files.Steady g.setup.savePath g.files
  saves : g.files.Paired (files.SameText g.setup.root) g.files
  video : g.state.video = none
  wait : ∀ wait ∈ g.state.wait, ∃ due, wait = .timer due
  choice : ∀ c ∈ g.state.choice, c.Fresh g.now

/-- Two games that tell the same story. -/
structure Game.Twin (files : FileTree) (g h : Game τ) : Prop where
  setup : g.setup = h.setup
  program : g.program = h.program
  state : g.state.Twin h.state
  trees : g.files.Paired (files.SameText g.setup.root) h.files
  left : g.Quiet files
  right : h.Quiet files

/-- What of a state the passing of time looks at. -/
def State.watched (s : State τ) : Option (Video τ) × Option (Wait τ) × Option (Choice τ) :=
  (s.video, s.wait, s.choice)

/-- A command that leaves time for every choice that it offers. -/
def Command.Relayed (τ : Type) [Clock τ] : Command → Prop
  | .choice _ _ timeout _ =>
    ∀ seconds ∈ timeout, Clock.lt (Clock.zero : τ) (Clock.seconds seconds) = true
  | _ => True

namespace Game

variable {files : FileTree} {g h : Game τ}

theorem Quiet.still (quiet : g.Quiet files) {s : State τ} (same : s.watched = g.state.watched) :
    ({ g with state := s } : Game τ).Quiet files := by
  obtain ⟨video, wait, choice⟩ : s.video = g.state.video ∧ s.wait = g.state.wait ∧
      s.choice = g.state.choice := by
    simpa [State.watched] using same
  exact
    { quiet with
      video := video.trans quiet.video
      wait := wait ▸ quiet.wait
      choice := choice ▸ quiet.choice }

theorem Quiet.supplied (quiet : g.Quiet files) : g.Supplied files :=
  { quiet with reads := quiet.steady.retells }

/-- A library of the story in the place of that of the game. -/
theorem Quiet.stock (quiet : g.Quiet files) {library : Library}
    (supplied : ({ g with library } : Game τ).Supplied files) :
    ({ g with library } : Game τ).Quiet files :=
  { quiet with strict := supplied.strict, shelf := supplied.shelf }

theorem Quiet.twin (quiet : g.Quiet files) : g.Twin files g :=
  ⟨rfl, rfl, .refl _, quiet.saves, quiet, quiet⟩

theorem Twin.choosing (twin : g.Twin files h) :
    g.state.choice.isSome = h.state.choice.isSome := by
  rcases twin.state.choice_cases with ⟨left, right⟩ | ⟨c, d, left, right, -⟩ <;> rw [left, right]
  rfl

theorem Twin.wait_cases (twin : g.Twin files h) :
    (g.state.wait = none ∧ h.state.wait = none) ∨
      ∃ due due', g.state.wait = some (.timer due) ∧ h.state.wait = some (.timer due') := by
  have same := twin.state.wait
  cases left : g.state.wait with
  | none =>
    rw [left] at same
    exact .inl ⟨rfl, Option.isNone_iff_eq_none.mp (by simpa using same.symm)⟩
  | some w =>
    rw [left] at same
    obtain ⟨w', right⟩ := Option.isSome_iff_exists.mp same.symm
    obtain ⟨due, rfl⟩ := twin.left.wait w left
    obtain ⟨due', rfl⟩ := twin.right.wait w' right
    exact .inr ⟨due, due', rfl, right⟩

/-- Twins wait for the same. -/
theorem Twin.status (twin : g.Twin files h) : g.status = h.status := by
  unfold Game.status Status.ofState
  rw [twin.left.menu, twin.right.menu, twin.state.map, twin.choosing, twin.state.question,
    twin.state.phone, twin.state.dialogue, twin.state.index, twin.program]
  rcases twin.wait_cases with ⟨left, right⟩ | ⟨due, due', left, right⟩ <;> rw [left, right]
  rfl

end Game

/-! ## 4. Small actions -/

namespace Game.Twin

open VisualNovel.Action (Together)

variable {files : FileTree} {g h : Game τ}

/-- What stands around the story does not matter. -/
theorem around (twin : g.Twin files h) {requests requests' : Array AssetRequest}
    {logs logs' : Array LogRecord} :
    ({ g with requests, logs } : Game τ).Twin files { h with requests := requests', logs := logs' } :=
  { twin with left := { twin.left with }, right := { twin.right with } }

theorem still (twin : g.Twin files h) {s t : State τ} (state : s.Twin t)
    (left : s.watched = g.state.watched) (right : t.watched = h.state.watched) :
    ({ g with state := s } : Game τ).Twin files { h with state := t } :=
  { twin with state, left := twin.left.still left, right := twin.right.still right }

theorem change (twin : g.Twin files h) {f f' : State τ → State τ}
    (state : (f g.state).Twin (f' h.state)) (left : (f g.state).watched = g.state.watched)
    (right : (f' h.state).watched = h.state.watched) :
    Together (Twin files) (Action.change f) (Action.change f') g h :=
  .ok rfl rfl (twin.still state left right)

theorem released (twin : g.Twin files h) :
    ({ g with state := { g.state with wait := none } } : Game τ).Twin files
      { h with state := { h.state with wait := none } } :=
  { twin with
    state := { twin.state with wait := rfl }
    left := { twin.left with wait := nofun }
    right := { twin.right with wait := nofun } }

theorem log (twin : g.Twin files h) (level : LogLevel) (message : Text) :
    Together (Twin files) (Action.log level message) (Action.log level message) g h :=
  .ok rfl rfl twin.around

theorem logAll (twin : g.Twin files h) (records records' : List LogRecord) :
    Together (Twin files) (Action.logAll records) (Action.logAll records') g h :=
  .ok rfl rfl twin.around

theorem request (twin : g.Twin files h) (r r' : AssetRequest) :
    Together (Twin files) (Action.request r) (Action.request r') g h :=
  .ok rfl rfl twin.around

/-- Actions that touch nothing but the stage keep games twins, whatever they do there. -/
theorem onStage (twin : g.Twin files h) {m n : Action τ Unit}
    (left : ∃ sprites tracks requests logs,
      m g = .ok () { g with requests, logs, state := { g.state with sprites, tracks } })
    (right : ∃ sprites tracks requests logs,
      n h = .ok () { h with requests, logs, state := { h.state with sprites, tracks } }) :
    Together (Twin files) m n g h := by
  obtain ⟨sprites, tracks, requests, logs, left⟩ := left
  obtain ⟨sprites', tracks', requests', logs', right⟩ := right
  have moved : ({ g with state := { g.state with sprites, tracks } } : Game τ).Twin files
      { h with state := { h.state with sprites := sprites', tracks := tracks' } } :=
    twin.still { twin.state with } rfl rfl
  exact .ok left right moved.around

theorem closeVideo (twin : g.Twin files h) :
    Together (Twin files) Action.closeVideo Action.closeVideo g h := by
  have closed : ∀ k : Game τ, k.Quiet files → Action.closeVideo k = .ok () k := by
    intro k quiet
    have read : Action.state k = .ok k.state k := rfl
    rw [Action.closeVideo, run_bind_ok read, quiet.video]
    rfl
  exact .ok (closed g twin.left) (closed h twin.right) twin

theorem toggleInventory (twin : g.Twin files h) :
    Together (Twin files) Action.toggleInventory Action.toggleInventory g h :=
  twin.change { twin.state with inventoryOpen := congrArg (!·) twin.state.inventoryOpen }
    rfl rfl

/-- A jump leads to the same place, or nowhere in both games. -/
theorem jump (twin : g.Twin files h) (target : Text) :
    Together (Twin files) (Action.jump target) (Action.jump target) g h := by
  unfold Action.jump
  simp only
  rw [Action.together_get, twin.setup, twin.program]
  refine .ite Iff.rfl (fun _ => ?_) fun _ => ?_
  · exact .ite Iff.rfl (fun _ => twin.toggleInventory) fun _ => Action.together_pure twin
  · split
    · exact twin.change { twin.state with index := rfl } rfl rfl
    · exact (twin.log _ _).bind fun _ _ _ twin => Action.together_fail twin

theorem scroll (twin : g.Twin files h) (delta : Float) :
    Together (Twin files) (Action.scroll delta) (Action.scroll delta) g h := by
  unfold Action.scroll
  rw [Action.together_get, twin.setup]
  refine (twin.change (twin.state.scroll _ delta) rfl rfl).bind
    fun _ _ _ twin => ?_
  rw [Action.together_state, twin.state.inventoryPage]
  exact Action.together_pure twin

/-- Twins show the same to be dismissed. -/
theorem dismissed (twin : g.Twin files h) :
    ({ g with state := g.state.dismiss.2 } : Game τ).Twin files
      { h with state := h.state.dismiss.2 } := by
  unfold State.dismiss
  rw [twin.state.phone, twin.state.dialogue]
  split
  · exact twin.still { twin.state with phone := rfl, dialogue := rfl } rfl rfl
  · split
    · exact twin.still { twin.state with phone := rfl, dialogue := rfl } rfl rfl
    · exact twin

end Game.Twin

end VisualNovel
