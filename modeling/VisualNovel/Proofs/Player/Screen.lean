import VisualNovel.Player.CommandLine
import VisualNovel.Proofs.Engine.Selection
import VisualNovel.Proofs.Relay.Rest

/-!
The text screen shows what the game asks.

A session holds a game and a view, and keys change them by different ways: an answer changes both, a
load and a restart replace the one and reset the other, the cursor, the typing and the notices change
the view alone. `Session.Agrees` says that the game stands at a boundary and that the view shows it;
it holds at the start, and every key and every tick keeps it, as long as no answer fails
(`Session.Reached.agrees`). So enter picks what the row under the cursor says
(`screen_agrees`), with one exception: a game taken from a file can have a map over a choice. Then the
screen shows the map, and a pick is one of the choice (`map_hides_choice`).
-/

namespace VisualNovel

/-! ## 1. Games at a boundary -/

section

variable {τ : Type}

/-- A game at which the runner stops. -/
def Game.Rests (g : Game τ) : Prop :=
  g.status = .waitingChoice ∨ g.status = .mapOverlay ∨ g.status = .waitingInput ∨ g.status = .ended

theorem Action.rests_of_playToBoundary [Clock τ] {g t : Game τ} {b : Boundary}
    (h : playToBoundary g = .ok b t) : t.Rests := by
  simpa [Game.Rests, Game.isAtBoundary] using boundary_of_playToBoundary h

/-- The texts of a boundary are not the game's. -/
theorem Game.boundary_texts (g : Game τ) (texts : List Text) :
    g.boundary texts = { g.boundary [] with texts } := by
  unfold Game.boundary
  split <;> rfl

/-- A game stands at a boundary. -/
structure Game.StopsAt (g : Game τ) (b : Boundary) : Prop where
  rests : g.Rests
  boundary : b = { g.boundary [] with texts := b.texts }

theorem Action.stopsAt_of_playToBoundary [Clock τ] {g t : Game τ} {b : Boundary}
    (h : playToBoundary g = .ok b t) : t.StopsAt b := by
  obtain ⟨texts, rfl⟩ := boundary_eq_of_playToBoundary h
  exact ⟨rests_of_playToBoundary h, by rw [Game.boundary_texts]⟩

/-- A launch that plays to a boundary stops there. -/
theorem Launch.stopsAt_of_after [Clock τ] {launch : Launch τ} {α : Type} {first : Action τ α}
    {g : Game τ} {b : Boundary}
    (h : launch.after (do let _ ← first; Action.playToBoundary) = .done b g) : g.StopsAt b := by
  unfold after at h
  split at h
  · cases h
  · next program library logs read =>
    simp only at h
    split at h
    · next value game ran =>
      cases h
      obtain ⟨_, _, _, played⟩ := run_bind_eq_ok.mp ran
      exact Action.stopsAt_of_playToBoundary played
    · cases h

end

/-! ## 2. Views -/

/-- A view that asks what a boundary asks. -/
structure View.Shows (v : View) (b : Boundary) : Prop where
  choices : v.choices = b.choices
  prompt : v.prompt = b.choicePrompt.or b.inputPrompt
  inputMode : v.inputMode = decide (b.event = .input)
  inputDefault : v.inputDefault = b.inputDefault
  ended : v.ended = decide (b.event = .ended)

namespace View

variable {v : View} {b : Boundary}

theorem shows_goTo (v : View) (b : Boundary) (hud : Option Text) (replace : Bool) (notice : Text) :
    (v.goTo b hud replace notice).Shows b := ⟨rfl, rfl, rfl, rfl, rfl⟩

/-- Which texts were said on the way makes no difference. -/
theorem Shows.texts {c : Boundary} (h : v.Shows b) (same : b = { c with texts := b.texts }) :
    v.Shows c := by
  rw [same] at h
  exact { h with }

/-- An action that shows no other boundary leaves what is asked as it is. -/
theorem Shows.step (h : v.Shows b) {action : ViewAction}
    (quiet : ∀ b hud replace notice, action ≠ .boundary b hud replace notice) :
    (v.step action).Shows b := by
  cases action with
  | boundary b' hud replace notice => exact absurd rfl (quiet b' hud replace notice)
  | tick =>
    change v.tick.Shows b
    unfold View.tick
    split
    · split <;> exact { h with }
    · split <;> exact { h with }
    · exact h
  | flush => exact { h with }
  | move delta =>
    change (v.move delta).Shows b
    unfold View.move
    split <;> exact { h with }
  | type text => exact { h with }
  | erase => exact { h with }
  | notice text => exact { h with }

end View

/-! ## 3. Jobs of games -/

namespace Job

variable {α : Type} {world after : World}

/-- A game that acts on the files of a world. -/
def on (game : Game Float) (world : World) : Game Float := { game with files := world.files }

theorem run_files (world : World) : files world = .ok world.files world := rfl

theorem act_of_ok {game t : Game Float} {action : Action Float α} {value : α}
    (h : action (on game world) = .ok value t) :
    act game action world = .ok (.ok value, { t with logs := #[] })
      { files := t.files, logs := world.logs ++ t.logs.toList.toArray } := by
  rw [on] at h
  rw [act, run_bind_ok (run_files world)]
  simp only [h]
  rfl

theorem act_of_error {game t : Game Float} {action : Action Float α} {e : Failure}
    (h : action (on game world) = .error e t) :
    act game action world = .ok (.error e, { t with logs := #[] })
      { files := t.files, logs := world.logs ++ t.logs.toList.toArray } := by
  rw [on] at h
  rw [act, run_bind_ok (run_files world)]
  simp only [h]
  rfl

/-- What a launch gives a job. -/
theorem launch_eq_ok {launched : Launched Float α} {value : α} {game : Game Float}
    (h : launch launched world = .ok (value, game) after) :
    ∃ t, launched = .done value t ∧ game = { t with logs := #[] } := by
  cases launched with
  | done v t =>
    cases h
    exact ⟨t, rfl, rfl⟩
  | failed failure files logs => cases h

/-- A result that is wrapped. -/
theorem map_some_eq_ok {m : Job α} {a : α} (h : (some <$> m) world = .ok (some a) after) :
    m world = .ok a after := by
  rw [map_eq_pure_bind] at h
  obtain ⟨b, w, ran, rest⟩ := run_bind_eq_ok.mp h
  cases rest
  exact ran

end Job

/-! ## 4. Sessions -/

namespace Session

variable {s t : Session} {world after : World}

/-- The game stands at a boundary, and the view shows what it asks there. -/
structure Agrees (s : Session) : Prop where
  rests : s.game.Rests
  shows : s.view.Shows (s.game.boundary [])

/-- A session that goes to the boundary of a game agrees with it. -/
theorem agrees_goTo {g : Game Float} {b : Boundary} (h : g.StopsAt b) (notice : Text)
    (replace : Bool) : (s.goTo { g with logs := #[] } b notice replace).Agrees := by
  refine ⟨h.rests, ?_⟩
  have shown := View.shows_goTo s.view b g.state.hudLine replace notice
  exact shown.texts h.boundary

/-- An action on the view that shows no other boundary keeps a session as it should be. -/
theorem Agrees.see (h : s.Agrees) {action : ViewAction}
    (quiet : ∀ b hud replace notice, action ≠ .boundary b hud replace notice) :
    (s.see action).Agrees := ⟨h.rests, h.shows.step quiet⟩

theorem Agrees.note (h : s.Agrees) (text : Text) : (s.note text).Agrees := h.see nofun

theorem agrees_start {project : Project} {stateFile : Text} {size : TerminalSize}
    (begun : start project stateFile size world = .ok s after) : s.Agrees := by
  rw [start, run_bind_ok (Job.run_files world)] at begun
  obtain ⟨⟨b, game⟩, w, launched, rest⟩ := run_bind_eq_ok.mp begun
  cases rest
  obtain ⟨g, done, rfl⟩ := Job.launch_eq_ok launched
  have stops : g.StopsAt b := Launch.stopsAt_of_after done
  exact ⟨stops.rests, (View.shows_goTo _ _ _ _ _).texts stops.boundary⟩

/-- Another game of the project is shown where it stops. -/
theorem agrees_swap {launched : Launched Float Boundary} {notice : Text}
    (stops : ∀ b g, launched = .done b g → g.StopsAt b)
    (swapped : s.swap launched notice world = .ok t after) : t.Agrees := by
  obtain ⟨⟨b, game⟩, w, found, rest⟩ := run_bind_eq_ok.mp swapped
  cases rest
  obtain ⟨g, done, rfl⟩ := Job.launch_eq_ok found
  exact agrees_goTo (stops b g done) notice true

theorem agrees_restart (restarted : s.restart world = .ok t after) : t.Agrees := by
  rw [restart, run_bind_ok (Job.run_files world)] at restarted
  exact agrees_swap (fun b g done => Launch.stopsAt_of_after done) restarted

theorem agrees_load (loaded : s.load world = .ok t after) : t.Agrees := by
  obtain ⟨⟨state, data⟩, w, read, rest⟩ := run_bind_eq_ok.mp loaded
  simp only at rest
  split at rest
  · cases rest
  · rw [run_bind_ok (Job.run_files w)] at rest
    exact agrees_swap (fun b g done => Launch.stopsAt_of_after done) rest

theorem Agrees.save (h : s.Agrees) (saved : s.save world = .ok t after) : t.Agrees := by
  unfold Session.save at saved
  split at saved
  · cases saved
    exact h.note _
  · obtain ⟨⟨data, game⟩, w, taken, rest⟩ := run_bind_eq_ok.mp saved
    obtain ⟨_, v, written, rest⟩ := run_bind_eq_ok.mp rest
    cases rest
    exact h.note _

/-- What is attempted fails with a notice. -/
theorem Agrees.attempt (h : s.Agrees) {job : Job Session}
    (goes : ∀ t after, job world = .ok t after → t.Agrees)
    (attempted : s.attempt job world = .ok t after) : t.Agrees := by
  unfold Session.attempt at attempted
  split at attempted
  · next next w ran =>
    cases attempted
    exact goes _ _ ran
  · split at attempted
    · cases attempted
    · cases attempted
      exact h.note _

/-- An answer that does not fail is shown. -/
theorem agrees_play {action : Action Float Boundary} {notice : Text}
    (answers : ∃ b g, action (Job.on s.game world) = .ok b g ∧ g.StopsAt b)
    (played : s.play action notice world = .ok t after) : t.Agrees := by
  obtain ⟨b, g, ran, stops⟩ := answers
  rw [Session.play, run_bind_ok (Job.act_of_ok ran)] at played
  cases played
  exact agrees_goTo stops notice false

/-- What enter does, if it answers something. -/
def answer? (s : Session) : Option (Action Float Boundary) :=
  if s.view.isStreaming then none
  else if s.view.inputMode then some (Action.submitAndPlay s.view.buffer)
  else s.view.choices[s.view.cursor]?.map fun choice => Action.chooseAndPlay choice.index

/-- No answer fails. -/
def Answers (s : Session) (stroke : Stroke) (world : World) : Prop :=
  stroke = .enter → ∀ action ∈ s.answer?, ∃ b g, action (Job.on s.game world) = .ok b g

theorem stopsAt_of_answer {action : Action Float Boundary} (h : action ∈ s.answer?)
    {g : Game Float} {b : Boundary} (ran : action (Job.on s.game world) = .ok b g) :
    g.StopsAt b := by
  unfold answer? at h
  split at h
  · cases h
  · split at h
    · cases h
      obtain ⟨_, _, _, played⟩ := run_bind_eq_ok.mp ran
      exact Action.stopsAt_of_playToBoundary played
    · obtain ⟨choice, -, rfl⟩ := Option.mem_map.mp h
      obtain ⟨_, _, _, played⟩ := run_bind_eq_ok.mp ran
      exact Action.stopsAt_of_playToBoundary played

theorem agrees_answer {action : Action Float Boundary} {notice : Text} (own : action ∈ s.answer?)
    (answers : ∀ action ∈ s.answer?, ∃ b g, action (Job.on s.game world) = .ok b g)
    (played : s.play action notice world = .ok t after) : t.Agrees := by
  obtain ⟨b, g, ran⟩ := answers action own
  exact agrees_play ⟨b, g, ran, stopsAt_of_answer own ran⟩ played

/-- A key while a question is open. -/
theorem Agrees.questionStroke (h : s.Agrees) (still : s.view.isStreaming = false)
    (asked : s.view.inputMode = true) {stroke : Stroke} (answers : s.Answers stroke world)
    (pressed : s.questionStroke stroke world = .ok t after) : t.Agrees := by
  cases stroke with
  | enter =>
    have own : Action.submitAndPlay s.view.buffer ∈ s.answer? := by simp [answer?, still, asked]
    exact agrees_answer own (answers rfl) pressed
  | erase =>
    cases pressed
    exact h.see nofun
  | text text =>
    cases pressed
    split
    · exact h
    · exact h.see nofun
  | up | down | escape | other =>
    cases pressed
    exact h

/-- A key while choices are open. -/
theorem Agrees.choiceStroke (h : s.Agrees) (still : s.view.isStreaming = false)
    (unasked : s.view.inputMode = false) {stroke : Stroke} (answers : s.Answers stroke world)
    (pressed : s.choiceStroke stroke world = .ok (some t) after) : t.Agrees := by
  cases stroke with
  | enter =>
    have chosen := Job.map_some_eq_ok pressed
    cases under : s.view.choices[s.view.cursor]? with
    | none =>
      simp only [chooseSelected, under] at chosen
      cases chosen
      exact h.note _
    | some choice =>
      simp only [chooseSelected, under] at chosen
      have own : Action.chooseAndPlay choice.index ∈ s.answer? := by
        simp [answer?, still, unasked, under]
      exact agrees_answer own (answers rfl) chosen
  | up | down =>
    cases pressed
    exact h.see nofun
  | text text =>
    unfold Session.choiceStroke at pressed
    simp only at pressed
    split at pressed
    · cases pressed
    split at pressed
    · exact h.attempt (fun _ _ => agrees_restart) (Job.map_some_eq_ok pressed)
    split at pressed
    · exact h.attempt (fun _ _ => h.save) (Job.map_some_eq_ok pressed)
    split at pressed
    · exact h.attempt (fun _ _ => agrees_load) (Job.map_some_eq_ok pressed)
    · cases pressed
      exact h
  | erase | escape | other =>
    cases pressed
    exact h

/-- Every key keeps a session as it should be, if no answer fails. -/
theorem Agrees.press (h : s.Agrees) {stroke : Stroke} (answers : s.Answers stroke world)
    (pressed : s.press stroke world = .ok (some t) after) : t.Agrees := by
  unfold Session.press at pressed
  split at pressed
  · cases pressed
  split at pressed
  · cases pressed
    split
    · exact h.see nofun
    · exact h
  · next still =>
    have still := Bool.eq_false_iff.mpr still
    split at pressed
    · next asked => exact h.questionStroke still asked answers (Job.map_some_eq_ok pressed)
    · next unasked => exact h.choiceStroke still (Bool.eq_false_iff.mpr unasked) answers pressed

/-- Sessions that come of keys and ticks, while anything may become of the world in between. No answer
fails on the way; what else fails is allowed. -/
inductive Reached : Session → Prop
  | start {project : Project} {stateFile : Text} {size : TerminalSize} {world after : World}
      {s : Session} (begun : Session.start project stateFile size world = .ok s after) : Reached s
  | tick {s : Session} (shown : Reached s) : Reached (s.see .tick)
  | press {s t : Session} {stroke : Stroke} {world after : World} (shown : Reached s)
      (answers : s.Answers stroke world) (pressed : s.press stroke world = .ok (some t) after) :
      Reached t

theorem Reached.agrees (shown : s.Reached) : s.Agrees := by
  induction shown with
  | start begun => exact agrees_start begun
  | tick _ ih => exact ih.see nofun
  | press _ answers pressed ih => exact ih.press answers pressed

end Session

/-! ## 5. What enter picks -/

/-- What a pick is from, texts and targets: the options of the choice, or else the points of the map. -/
def Game.offers {τ : Type} (g : Game τ) : List (Text × Text) :=
  match g.state.choice with
  | some choice => choice.options.map fun o => (o.text, o.target)
  | none =>
    if g.state.map.active then g.state.map.points.toList.map fun p => (p.label, p.target) else []

/-- A game with a map over a choice. -/
def Game.HidesChoice {τ : Type} (g : Game τ) : Prop :=
  g.state.map.active = true ∧ g.state.choice.isSome = true

theorem Ordinal.get?_map {α β : Type} (p : Ordinal) (xs : List α) (f : α → β) :
    p.get? (xs.map f) = (p.get? xs).map f := by
  cases p with
  | nth n => exact List.getElem?_map ..
  | stray x => rfl

namespace Game

variable {τ : Type} {g : Game τ}

theorem picked?_eq_offers (g : Game τ) (pick : Ordinal) :
    g.picked? pick = (pick.get? g.offers).map (·.2) := by
  unfold picked? offers
  cases g.state.choice with
  | some choice =>
    simp only [Ordinal.get?_map, Option.map_map]
    rfl
  | none =>
    simp only
    split
    · rw [Ordinal.get?_map, Option.map_map]
      rfl
    · cases pick <;> rfl

/-- What a boundary offers is what a pick is from, unless a map hides a choice. -/
theorem choices_eq_offers (rests : g.Rests) (clear : ¬ g.HidesChoice) :
    (g.boundary []).choices = BoundaryChoice.number (g.offers.map (·.1)) := by
  have noMenu : g.menu = none := by
    cases menu : g.menu with
    | none => rfl
    | some m => cases kind : m.kind <;> simp [Rests, status, menu, Status.ofMenu, kind] at rests
  have stands : g.status = Status.ofState g.state g.program.commands.size := by
    rw [status, noMenu]
  unfold boundary offers
  cases active : g.state.map.active with
  | true =>
    rw [stands, Status.ofState, if_pos active]
    cases pending : g.state.choice with
    | some choice => exact absurd ⟨active, by rw [pending]; rfl⟩ clear
    | none => simp [Boundary.atMap, Function.comp_def]
  | false =>
    cases pending : g.state.choice with
    | some choice =>
      rw [stands, Status.ofState, active, pending]
      simp [Boundary.atChoice, Function.comp_def]
    | none =>
      -- Neither a choice nor a map is there, so nothing is offered.
      rw [stands]
      rcases Status.ofState_cases g.state g.program.commands.size with
        ⟨-, shown⟩ | ⟨-, isSome⟩ | ⟨same, -⟩ | ⟨same, -⟩ | ⟨wait, same, -⟩ | ⟨same, -⟩
      · rw [active] at shown
        cases shown
      · rw [pending] at isSome
        cases isSome
      · rw [same]
        rfl
      · rw [same]
        rfl
      · rw [same]
        cases wait <;> rfl
      · rcases same with same | same | same <;> (rw [same]; rfl)

end Game

theorem BoundaryChoice.getElem?_number (texts : List Text) (n : Nat) :
    (number texts)[n]? = texts[n]?.map fun text => { index := .nth n, text } := by
  rw [number, List.getElem?_map, List.getElem?_zipIdx, Nat.zero_add, Option.map_map]
  rfl

/-- A choice that is open is on the screen, and nothing is in its way. -/
theorem View.of_openChoices {v : View} {n : Nat} {choice : BoundaryChoice}
    (h : v.openChoices[n]? = some choice) :
    v.isStreaming = false ∧ v.inputMode = false ∧ v.choices[n]? = some choice := by
  unfold openChoices at h
  split at h
  · cases h
  · next clear =>
    rw [Bool.or_eq_true, not_or, Bool.not_eq_true, Bool.not_eq_true] at clear
    exact ⟨clear.1, clear.2, h⟩

namespace Session

variable {s : Session} {world after : World}

theorem press_enter (still : s.view.isStreaming = false) (unasked : s.view.inputMode = false)
    {choice : BoundaryChoice} (chosen : s.view.choices[s.view.cursor]? = some choice)
    (world : World) : s.press .enter world =
      (some <$> s.play (Action.chooseAndPlay choice.index)
        (Text.ofString "chose " ++ choice.index.text)) world := by
  have own : s.chooseSelected = s.play (Action.chooseAndPlay choice.index)
      (Text.ofString "chose " ++ choice.index.text) := by
    simp only [chooseSelected, chosen]
  simp only [press, still, unasked, choiceStroke, own]
  rfl

theorem press_load (still : s.view.isStreaming = false) (unasked : s.view.inputMode = false)
    {e : Failure} (failed : s.load world = .error e after) :
    s.press (.text "l") world =
      if e.isEndless then .error e after else .ok (some (s.note e.message)) after := by
  have tried : s.attempt s.load world =
      if e.isEndless then .error e after else .ok (s.note e.message) after := by
    simp only [attempt, failed]
  have key : s.choiceStroke (.text "l") = some <$> s.attempt s.load := by
    unfold choiceStroke
    rfl
  simp only [press, still, unasked, key]
  rw [if_neg nofun, if_neg nofun, if_neg nofun, map_eq_pure_bind]
  split
  · next endless => rw [run_bind_error (tried.trans (if_pos endless))]
  · next handled =>
    rw [run_bind_ok (tried.trans (if_neg handled))]
    rfl

end Session

/-- The game of a text screen stands at a boundary, and the view shows what it asks there. On the
highlighted row enter takes that option: unless a map hides a choice, it is the one with the text of the
row, and the game goes where it leads. A load that fails changes nothing but the notice; only one that
never returns leaves no session. -/
theorem screen_agrees {s : Session} (shown : s.Reached) :
    (s.game.Rests ∧ s.view.Shows (s.game.boundary [])) ∧
    (∀ choice, s.view.openChoices[s.view.cursor]? = some choice →
      (∀ world, s.press .enter world =
        (some <$> s.play (Action.chooseAndPlay choice.index)
          (Text.ofString "chose " ++ choice.index.text)) world) ∧
      (¬ s.game.HidesChoice → ∃ target,
        choice.index.get? s.game.offers = some (choice.text, target) ∧
        ∀ world, Action.choose choice.index (Job.on s.game world) =
          Action.jump target ((Job.on s.game world).inState s.game.state.closed))) ∧
    ∀ world e after, s.load world = .error e after → s.view.isStreaming = false →
      s.view.inputMode = false → s.press (.text "l") world =
        if e.isEndless then .error e after
        else .ok (some { s with view := { s.view with notice := e.message } }) after := by
  have agrees := shown.agrees
  refine ⟨⟨agrees.rests, agrees.shows⟩, fun choice under => ⟨fun world => ?_, fun clear => ?_⟩,
    fun world e after failed still unasked => ?_⟩
  · obtain ⟨still, unasked, chosen⟩ := View.of_openChoices under
    exact Session.press_enter still unasked chosen world
  · obtain ⟨-, -, chosen⟩ := View.of_openChoices under
    rw [agrees.shows.choices, Game.choices_eq_offers agrees.rests clear,
      BoundaryChoice.getElem?_number, List.getElem?_map, Option.map_map] at chosen
    obtain ⟨⟨text, target⟩, offered, rfl⟩ := Option.map_eq_some_iff.mp chosen
    refine ⟨target, offered, fun world => Action.choose_of_picked ?_⟩
    rw [Game.picked?_eq_offers]
    exact congrArg (Option.map (·.2)) offered
  · exact Session.press_load still unasked failed

/-- A story with two ways. -/
def waysSource : Text :=
  "ask \"Which way?\" \"Left\" -> left \"Right\" -> right; label left: label right:"

/-- A state of the story with a map over its choice. -/
def waysState : State Float where
  index := .nth 1
  choice := some
    { prompt := "Which way?", options := [⟨"Left", "left"⟩, ⟨"Right", "right"⟩], started := 0.0 }
  map := { active := true, points := #[{ label := "The inn", target := "right", pos := ⟨5.0, 5.0⟩ }] }

/-- The story, with a state file that holds the state. -/
def waysWorld : World where
  files := ⟨⟨[("/game/main.vn", .file waysSource),
    ("/st.json", .file (PlayerState.toJson
      ⟨"/game", (Snapshot.ofState waysState "main.vn" 0.0).toJson⟩).compact)]⟩⟩

/-- A session of the story. -/
def waysStart : Job Session := Session.start gameProject "/st.json" {}

/-- The session after the state file is loaded. -/
def waysLoaded : Job (Option Session) := do (← waysStart).press (.text "l")

/-- The story begins with its choice; the highlighted row is taken. -/
theorem screen_agrees_ways :
    ∃ (s : Session) (world : World) (choice : BoundaryChoice),
      waysStart waysWorld = .ok s world ∧ s.view.openChoices[s.view.cursor]? = some choice ∧
      choice.text = "Left" ∧ ∃ target, choice.index.get? s.game.offers = some (choice.text, target) := by
  obtain ⟨s, world, begun, seen⟩ := exists_run (m := waysStart) (s := waysWorld)
    (f := fun s _ => (s.view.openChoices[s.view.cursor]?.map (·.text), s.game.state.map.active))
    (b := (some (Text.ofString "Left"), false)) (by decide +kernel)
  obtain ⟨row, active⟩ := Prod.mk.inj seen
  obtain ⟨choice, under, text⟩ := Option.map_eq_some_iff.mp row
  have clear : ¬ s.game.HidesChoice := by
    rintro ⟨shown, -⟩
    rw [active] at shown
    cases shown
  obtain ⟨target, offered, -⟩ := ((screen_agrees (.start begun)).2.1 choice under).2 clear
  exact ⟨s, world, choice, begun, under, text, target, offered⟩

/-- What is there to see of the loaded session, and of the session after enter. -/
def waysSeen (s : Session) (world : World) : Option (Option Text × Bool × Bool × Bool × Bool) :=
  match s.press .enter world with
  | .ok (some t) _ =>
    some (s.view.openChoices[s.view.cursor]?.map (·.text), s.game.state.choice.isSome,
      s.answer?.all (fun action =>
        match action (Job.on s.game world) with
        | .ok _ _ => true
        | .error _ _ => false),
      t.game.state.choice.isSome, t.game.state.map.active)
  | _ => none

/-- With the state file loaded, the highlighted row is the inn on the map. Enter does not fail, and takes
an option of the choice: the map is still open, and the choice is gone. -/
theorem map_hides_choice :
    ∃ (s t : Session) (world after : World),
      s.Reached ∧ s.Answers .enter world ∧ s.press .enter world = .ok (some t) after ∧
      s.view.openChoices[s.view.cursor]?.map (·.text) = some "The inn" ∧
      s.game.state.choice.isSome = true ∧
      t.game.state.choice.isSome = false ∧ t.game.state.map.active = true := by
  obtain ⟨loaded, world, ran, seen⟩ := exists_run (m := waysLoaded) (s := waysWorld)
    (f := fun loaded world => loaded.bind fun s => waysSeen s world)
    (b := some (some (Text.ofString "The inn"), true, true, false, true)) (by decide +kernel)
  obtain ⟨first, begun, started, pressed⟩ := run_bind_eq_ok.mp ran
  cases loaded with
  | none => cases seen
  | some s =>
    have quiet : first.Answers (.text "l") begun := fun enter => nomatch enter
    have reached : s.Reached := .press (.start started) quiet pressed
    simp only [Option.bind_some, waysSeen] at seen
    split at seen
    · next t after entered =>
      simp only [Option.some.injEq, Prod.mk.injEq] at seen
      obtain ⟨row, pending, answers, gone, shown⟩ := seen
      refine ⟨s, t, world, after, reached, fun _ action own => ?_, entered, row, pending, gone, shown⟩
      rw [Option.mem_def] at own
      rw [own, Option.all_some] at answers
      split at answers
      · next b g answered => exact ⟨b, g, answered⟩
      · cases answers
    · cases seen

end VisualNovel
