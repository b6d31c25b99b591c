import VisualNovel.Proofs.Engine.Targets

/-!
Selections that fail.

An option, a point of a map, a button or a hotspot leads to a target, and the target may lead nowhere.
A pick that names nothing is refused before anything happens. A target is looked up last: by then what
the player has selected from is closed, and a click on the story has ended the line and the wait. The
jump fails, and this much is lost: the player is not asked again (`failed_selection_loses`). The next
command, the variables and everything else stay. So a selection that fails leaves the game where it
was exactly if it names nothing, or if nothing was there to close.

A call is how good targets become bad ones: it takes up another program and leaves buttons and hotspots
as they are, and a click fails whenever what it meets leads to no label of the program that is played by
then (`clickable_after_call`).
-/

namespace VisualNovel

variable {τ : Type}

/-! ## 1. Jumps that lead nowhere -/

/-- A target that is no label of the program, and not the reserved name either. -/
def Program.LeadsNowhere (program : Program) (target : Text) : Prop :=
  stripRootMark target ≠ inventoryToggle ∧ program.labels.get? (stripRootMark target) = none

/-- The game after a jump that leads nowhere: its log has one more record. -/
def Game.complained (g : Game τ) (target : Text) : Game τ :=
  { g with
    logs := g.logs.push
      ⟨.error, "runtime", ScriptProblem.sentence
        ["unknown label ", inQuotes (stripRootMark target), " in ", g.program.script]⟩ }

/-- A jump fails exactly if it leads nowhere, and leaves the game as it was but for its log. -/
theorem Action.jump_eq_error_iff {g t : Game τ} {e : Failure} {target : Text} :
    jump target g = .error e t ↔
      g.program.LeadsNowhere target ∧ e = .play (.unknownLabel (stripRootMark target)) ∧
        t = g.complained target := by
  rw [jump, run_bind_ok (run_get g), Program.LeadsNowhere]
  by_cases reserved : stripRootMark target = inventoryToggle
  · rw [if_pos reserved]
    constructor
    · intro failed
      split at failed <;> cases failed
    · rintro ⟨⟨other, -⟩, -⟩
      exact absurd reserved other
  · rw [if_neg reserved]
    cases g.program.labels.get? (stripRootMark target) with
    | some index =>
      constructor
      · intro failed
        cases failed
      · rintro ⟨⟨-, missing⟩, -⟩
        cases missing
    | none =>
      constructor
      · intro failed
        cases failed
        exact ⟨⟨reserved, rfl⟩, rfl, rfl⟩
      · rintro ⟨-, rfl, rfl⟩
        rfl

/-! ## 2. Picks -/

/-- A game in another state. -/
def Game.inState (g : Game τ) (s : State τ) : Game τ := { g with state := s }

/-- The target under a pick: of an option of the choice, or else of a point of the map. -/
def Game.picked? (g : Game τ) (pick : Ordinal) : Option Text :=
  match g.state.choice with
  | some choice => (pick.get? choice.options).map (·.target)
  | none =>
    if g.state.map.active then (pick.get? g.state.map.points.toList).map (·.target) else none

/-- The state without the choice that was picked from, or with a closed map. -/
def State.closed (s : State τ) : State τ :=
  if s.choice.isSome then { s with choice := none }
  else { s with map := { s.map with active := false } }

theorem State.closed_of_some {s : State τ} {choice : Choice τ} (h : s.choice = some choice) :
    s.closed = { s with choice := none } := by
  rw [closed, h]
  rfl

theorem State.closed_of_none {s : State τ} (h : s.choice = none) :
    s.closed = { s with map := { s.map with active := false } } := by
  rw [closed, h]
  rfl

namespace Action

variable {g t : Game τ} {pick : Ordinal} {point : Point} {e : Failure}

/-- A pick closes what it is from, and jumps. -/
theorem choose_of_picked {target : Text} (h : g.picked? pick = some target) :
    choose pick g = jump target (g.inState g.state.closed) := by
  have read : (state : Action τ (State τ)) g = .ok g.state g := rfl
  rw [choose, run_bind_ok read]
  unfold Game.picked? at h
  cases pending : g.state.choice with
  | some choice =>
    simp only [pending, Option.map_eq_some_iff] at h
    obtain ⟨option, found, rfl⟩ := h
    rw [State.closed_of_some pending]
    simp only [found]
    rfl
  | none =>
    simp only [pending] at h
    split at h
    · next active =>
      obtain ⟨point, found, rfl⟩ := Option.map_eq_some_iff.mp h
      rw [State.closed_of_none pending]
      simp only [active, if_true, found]
      rfl
    · cases h

/-- A pick that names nothing is refused, and nothing happens. -/
theorem choose_of_not_picked (h : g.picked? pick = none) :
    ∃ e, choose pick g = .error e g ∧ ∀ name, ¬ e.Lacks name := by
  have read : (state : Action τ (State τ)) g = .ok g.state g := rfl
  rw [choose, run_bind_ok read]
  unfold Game.picked? at h
  cases pending : g.state.choice with
  | some choice =>
    simp only [pending, Option.map_eq_none_iff] at h
    simp only [h]
    exact ⟨_, rfl, fun name => nofun⟩
  | none =>
    simp only [pending] at h
    split at h
    · next active =>
      simp only [active, if_true, Option.map_eq_none_iff.mp h]
      exact ⟨_, rfl, fun name => nofun⟩
    · next inactive =>
      simp only [inactive]
      exact ⟨_, rfl, fun name => nofun⟩

end Action

theorem State.closed_ne {g : Game τ} {pick : Ordinal} {target : Text}
    (h : g.picked? pick = some target) : g.state.closed ≠ g.state := by
  unfold Game.picked? at h
  cases pending : g.state.choice with
  | some choice =>
    rw [closed_of_some pending]
    intro same
    have lost : none = g.state.choice := congrArg State.choice same
    rw [pending] at lost
    cases lost
  | none =>
    simp only [pending] at h
    split at h
    · next active =>
      rw [closed_of_none pending]
      intro same
      have hidden : false = g.state.map.active := congrArg (fun s => s.map.active) same
      rw [active] at hidden
      cases hidden
    · cases h

theorem State.index_closed (s : State τ) : s.closed.index = s.index := by
  unfold closed
  split <;> rfl

/-! ## 3. Clicks -/

/-- Where a click leads, with nothing over the story. -/
def Game.clickTarget? (g : Game τ) (point : Point) : Option Text :=
  match Action.buttonAt? g point with
  | some button => some button.target
  | none =>
    if g.state.dialogue.isSome then none else (Action.hotspotAt? g point).map (·.target)

/-- Where a click leads: to the target of a point of the map, or of a button or a hotspot with nothing
over the story. -/
def Game.clicked? (g : Game τ) (point : Point) : Option Text :=
  if g.menu.isSome then none
  else if g.state.map.active then
    (g.state.map.points.find? (·.holds g.setup.settings.mapPointRadius point)).map (·.target)
  else if g.state.choice.isSome || g.state.question.isSome || g.state.phone.unread then none
  else g.clickTarget? point

/-- The state without what a click to a target ends: the map, or else the line and the wait. -/
def State.interrupted (s : State τ) (target : Text) : State τ :=
  if s.map.active then { s with map := { s.map with active := false } }
  else if stripRootMark target ≠ inventoryToggle then { s with dialogue := none, wait := none }
  else s

theorem State.index_interrupted (s : State τ) (target : Text) :
    (s.interrupted target).index = s.index := by
  unfold interrupted
  split
  · rfl
  · split <;> rfl

/-- A click that does not only open the inventory leaves a state as it was exactly if nothing is in the
way. -/
theorem State.interrupted_eq_iff {s : State τ} {target : Text}
    (other : stripRootMark target ≠ inventoryToggle) :
    s.interrupted target = s ↔ s.map.active = false ∧ s.dialogue = none ∧ s.wait = none := by
  cases shown : s.map.active with
  | true =>
    rw [interrupted, if_pos shown]
    constructor
    · intro same
      have hidden : false = s.map.active := congrArg (fun s => s.map.active) same
      rw [shown] at hidden
      cases hidden
    · rintro ⟨hidden, -⟩
      cases hidden
  | false =>
    rw [interrupted, if_neg (by rw [shown]; exact Bool.false_ne_true), if_pos other]
    constructor
    · intro same
      exact ⟨rfl, (congrArg State.dialogue same).symm, (congrArg State.wait same).symm⟩
    · rintro ⟨-, silent, free⟩
      cases s
      simp_all

namespace Action

variable {g t : Game τ} {pick : Ordinal} {point : Point} {e : Failure}

theorem follow_eq (target : Text) (closed : g.state.map.active = false) :
    follow target g = jump target (g.inState (g.state.interrupted target)) := by
  rw [follow, State.interrupted, closed]
  simp only [Bool.false_eq_true, if_false]
  split <;> rfl

/-- A click that leads somewhere ends what is in the way, and jumps. -/
theorem click_of_clickTarget {target : Text} (closed : g.state.map.active = false)
    (h : g.clickTarget? point = some target) :
    click point g = jump target (g.inState (g.state.interrupted target)) := by
  rw [click, run_bind_ok (run_get g)]
  unfold Game.clickTarget? at h
  cases button : buttonAt? g point with
  | some b =>
    simp only [button, Option.some.injEq] at h
    subst h
    exact follow_eq _ closed
  | none =>
    simp only [button] at h
    split at h
    · cases h
    · next silent =>
      obtain ⟨hotspot, found, rfl⟩ := Option.map_eq_some_iff.mp h
      simp only [if_neg silent, found]
      exact follow_eq _ closed

/-- A click that leads nowhere at all is done. -/
theorem click_of_not_clickTarget (h : g.clickTarget? point = none) : ∃ t, click point g = .ok () t := by
  rw [click, run_bind_ok (run_get g)]
  unfold Game.clickTarget? at h
  cases button : buttonAt? g point with
  | some b =>
    simp only [button] at h
    cases h
  | none =>
    simp only [button] at h ⊢
    split at h
    · next shown =>
      rw [if_pos shown]
      exact ⟨_, rfl⟩
    · next silent =>
      rw [if_neg silent, Option.map_eq_none_iff.mp h]
      exact ⟨_, rfl⟩

variable [Clock τ]

theorem handle_click_of_clicked {target : Text} (h : g.clicked? point = some target) :
    handle (.click point) g = jump target (g.inState (g.state.interrupted target)) := by
  rw [handle, run_bind_ok (run_get g)]
  unfold Game.clicked? at h
  cases menu : g.menu with
  | some menu' => simp [menu] at h
  | none =>
    simp only [menu, Option.isSome_none, Bool.false_eq_true, if_false] at h ⊢
    split at h
    · next active =>
      obtain ⟨place, found, rfl⟩ := Option.map_eq_some_iff.mp h
      rw [if_pos active, mapEvent, run_bind_ok (run_get g), State.interrupted, if_pos active]
      simp only [found]
      rfl
    · next inactive =>
      rw [if_neg inactive]
      have closed := Bool.eq_false_iff.mpr inactive
      split at h
      · cases h
      · next free =>
        simp only [Bool.or_eq_true, not_or, Bool.not_eq_true, Option.isSome_eq_false_iff,
          Option.isNone_iff_eq_none] at free
        obtain ⟨⟨choice, question⟩, read⟩ := free
        simp only [choice, question, read, Bool.false_eq_true, if_false]
        exact click_of_clickTarget closed h

theorem handle_click_of_not_clicked (h : g.clicked? point = none) :
    ∃ t, handle (.click point) g = .ok () t := by
  rw [handle, run_bind_ok (run_get g)]
  unfold Game.clicked? at h
  cases menu : g.menu with
  | some menu' => exact ⟨g, rfl⟩
  | none =>
    simp only [menu, Option.isSome_none, Bool.false_eq_true, if_false] at h ⊢
    split at h
    · next active =>
      rw [if_pos active, mapEvent, run_bind_ok (run_get g)]
      simp only [Option.map_eq_none_iff.mp h]
      exact ⟨g, rfl⟩
    · next inactive =>
      rw [if_neg inactive]
      cases pending : g.state.choice with
      | some choice => exact ⟨g, rfl⟩
      | none =>
        cases question : g.state.question with
        | some question' => exact ⟨g, rfl⟩
        | none =>
          simp only
          split
          · exact ⟨_, rfl⟩
          · next read =>
            refine click_of_not_clickTarget ?_
            simpa [pending, question, read] using h

end Action

/-! ## 4. What is lost -/

/-- What becomes of a selection that fails. A pick that names nothing leaves the game as it was. A pick
that leads nowhere leaves it without the choice, or with a closed map; a click leaves it with a closed
map, or without a line and a wait. Nothing else changes but the log. -/
theorem failed_selection_loses [Clock τ] {g t : Game τ} {e : Failure} :
    (∀ pick, Action.choose pick g = .error e t →
      (t = g ∧ ∀ name, ¬ e.Lacks name) ∨
      ∃ target, g.picked? pick = some target ∧ g.program.LeadsNowhere target ∧
        e = .play (.unknownLabel (stripRootMark target)) ∧
        t = (g.inState g.state.closed).complained target ∧
        t.state.index = g.state.index ∧ t.state ≠ g.state) ∧
    ∀ point, Action.handle (.click point) g = .error e t →
      ∃ target, g.clicked? point = some target ∧ g.program.LeadsNowhere target ∧
        e = .play (.unknownLabel (stripRootMark target)) ∧
        t = (g.inState (g.state.interrupted target)).complained target ∧
        t.state.index = g.state.index ∧
        (t.state = g.state ↔
          g.state.map.active = false ∧ g.state.dialogue = none ∧ g.state.wait = none) := by
  constructor
  · intro pick failed
    cases found : g.picked? pick with
    | none =>
      obtain ⟨e', refused, other⟩ := Action.choose_of_not_picked found
      rw [refused] at failed
      cases failed
      exact .inl ⟨rfl, other⟩
    | some target =>
      rw [Action.choose_of_picked found] at failed
      obtain ⟨nowhere, rfl, rfl⟩ := Action.jump_eq_error_iff.mp failed
      exact .inr ⟨target, rfl, nowhere, rfl, rfl, g.state.index_closed, State.closed_ne found⟩
  · intro point failed
    cases found : g.clicked? point with
    | none =>
      obtain ⟨u, done⟩ := Action.handle_click_of_not_clicked found
      rw [done] at failed
      cases failed
    | some target =>
      rw [Action.handle_click_of_clicked found] at failed
      obtain ⟨nowhere, rfl, rfl⟩ := Action.jump_eq_error_iff.mp failed
      exact ⟨target, rfl, nowhere, rfl, rfl, g.state.index_interrupted target,
        State.interrupted_eq_iff nowhere.1⟩

/-- A story with a hotspot and an option that both lead nowhere. -/
def nowhereSource : Text :=
  "hotspot add door 0 0 10 10 -> nowhere; wait 10; ask \"Go?\" \"Yes\" -> nowhere;"

/-- The program of the story. -/
def nowhereProgram : Program :=
  ((Program.ofFile (soloFiles nowhereSource) false (.nth 0) "/game/main.vn").toOption.map (·.1)).getD
    { script := "", commands := #[], labels := {} }

/-- The story while it waits in front of the door. -/
def doorstepGame : Game Float := Operation.run.after (gameIn (soloFiles nowhereSource) nowhereProgram)

/-- The story at its question, after a click on the door. -/
def doubtGame : Game Float :=
  Operation.run.after ((Operation.frame [.click ⟨5.0, 5.0⟩] 0.0).after doorstepGame)

/-- The door does not open, and the wait is over; the option leads nowhere, and the choice is gone. -/
theorem failed_selection_loses_nowhere :
    (∃ e t, Action.handle (.click ⟨5.0, 5.0⟩) doorstepGame = .error e t ∧
      doorstepGame.status = .waitingTimer ∧ t.state ≠ doorstepGame.state) ∧
    ∃ e t, Action.choose (.nth 0) doubtGame = .error e t ∧
      doubtGame.status = .waitingChoice ∧ t.state ≠ doubtGame.state := by
  obtain ⟨e, t, failed, waits⟩ := exists_failure (m := Action.handle (.click ⟨5.0, 5.0⟩))
    (s := doorstepGame) (f := fun _ _ => (doorstepGame.status, doorstepGame.state.wait.isSome))
    (b := (.waitingTimer, true)) (by decide +kernel)
  obtain ⟨e', t', failed', asks⟩ := exists_failure (m := Action.choose (.nth 0)) (s := doubtGame)
    (f := fun e _ => (doubtGame.status, e)) (b := (.waitingChoice, .play (.unknownLabel "nowhere")))
    (by decide +kernel)
  obtain ⟨timer, pending⟩ := Prod.mk.inj waits
  obtain ⟨question, rfl⟩ := Prod.mk.inj asks
  refine ⟨⟨e, t, failed, timer, fun same => ?_⟩, _, t', failed', question, ?_⟩
  · obtain ⟨target, -, -, -, -, -, kept⟩ := failed_selection_loses.2 _ failed
    rw [(kept.mp same).2.2] at pending
    cases pending
  · rcases failed_selection_loses.1 _ failed' with ⟨-, other⟩ | ⟨target, -, -, -, -, -, lost⟩
    · exact absurd rfl (other "nowhere")
    · exact lost

/-- A story with nothing but an option that leads nowhere. -/
def dareSource : Text := "ask \"Go?\" \"Yes\" -> nowhere;"

/-- A choice is pending and the pick names its option, but the jump fails, and the choice is gone: the
story is at its end. -/
theorem choice_lost_nowhere :
    ∃ (program : Program) (reached : Ordinal),
      Program.ofFile (soloFiles dareSource) false (.nth 0) "/game/main.vn" = .ok (program, reached) ∧
      let g : Game Float := Operation.run.after (gameIn (soloFiles dareSource) program)
      let t := (Operation.choose (.nth 0)).after g
      (Operation.choose (.nth 0)).failure? g = some (.play (.unknownLabel "nowhere")) ∧
        g.status = .waitingChoice ∧ t.state.choice = none ∧ t.status = .ended := by
  obtain ⟨⟨program, reached⟩, read, seen⟩ := exists_ok
    (x := Program.ofFile (soloFiles dareSource) false (.nth 0) "/game/main.vn")
    (f := fun r =>
      let g : Game Float := Operation.run.after (gameIn (soloFiles dareSource) r.1)
      let t := (Operation.choose (.nth 0)).after g
      ((Operation.choose (.nth 0)).failure? g, g.status, t.state.choice, t.status))
    (b := (some (.play (.unknownLabel "nowhere")), .waitingChoice, none, .ended))
    (by decide +kernel)
  simp only [Prod.mk.injEq] at seen
  exact ⟨program, reached, read, seen⟩

/-! ## 5. Clicks after a call -/

/-- What a click meets leads astray: to no label of the program that is played, and not to the reserved
name. -/
def Game.Astray (g : Game τ) (point : Point) : Prop :=
  ∃ target, g.clicked? point = some target ∧ g.program.LeadsNowhere target

namespace Action

/-- A jump leaves what can be clicked as it is. -/
theorem keeps_clickable_jump (hotspots : Table Hotspot) (hud : Table HudButton) (target : Text)
    (g : Game τ) (h : g.state.hotspots = hotspots ∧ g.state.hud = hud) :
    Keeps (fun t : Game τ => t.state.hotspots = hotspots ∧ t.state.hud = hud) (fun _ => True)
      (jump target) g := by
  unfold jump
  simp only
  rw [keeps_get]
  refine .ite (fun _ => .ite (fun _ => h) fun _ => h) fun _ => ?_
  split
  · exact h
  · exact ⟨h, trivial⟩

/-- A call leaves what can be clicked as it is. -/
theorem keeps_clickable_call (g : Game τ) (resolved label : Text) :
    Keeps (fun t : Game τ => t.state.hotspots = g.state.hotspots ∧ t.state.hud = g.state.hud)
      (fun _ => True) (callScript resolved label) g := by
  unfold callScript
  rw [keeps_get]
  simp only
  rw [keeps_set_bind, logAll, keeps_modify_bind]
  split
  · exact ⟨⟨rfl, rfl⟩, trivial⟩
  · next edition _ =>
    obtain ⟨characters, same⟩ := g.state.introduceAll_frame edition.program
    rw [keeps_modify_bind, keeps_change_bind]
    apply keeps_clickable_jump
    simp [same]

/-- A click fails for want of a label exactly if what it meets leads astray, whatever is over the
story. -/
theorem handle_click_lacks [Clock τ] (g : Game τ) (point : Point) :
    (∃ e t name, handle (.click point) g = .error e t ∧ e.Lacks name) ↔ g.Astray point := by
  cases found : g.clicked? point with
  | none =>
    obtain ⟨u, done⟩ := handle_click_of_not_clicked found
    refine iff_of_false ?_ ?_
    · rintro ⟨e, t, name, failed, -⟩
      cases done.symm.trans failed
    · rintro ⟨target, met, -⟩
      cases found.symm.trans met
  | some target =>
    rw [handle_click_of_clicked found]
    constructor
    · rintro ⟨e, t, name, failed, -⟩
      exact ⟨target, found, (jump_eq_error_iff.mp failed).1⟩
    · rintro ⟨_, met, nowhere⟩
      cases found.symm.trans met
      exact ⟨_, _, stripRootMark target, jump_eq_error_iff.mpr ⟨nowhere, rfl, rfl⟩, rfl⟩

/-- What the events before an event have come to, the event goes on from. -/
theorem frame_fails_of_event [Clock τ] {g u v : Game τ} {now : τ} {before rest : List Event}
    {event : Event} {failure : Failure}
    (handled : before.forM handle { g with now } = .ok () u)
    (failed : handle event u = .error failure v) :
    frame (before ++ event :: rest) now g = .error failure v := by
  have parts : (before ++ event :: rest).forM handle =
      (do before.forM handle; handle event; rest.forM handle : Action τ PUnit) := by
    simp only [List.forM_eq_forM, List.forM_append, List.forM_cons]
  have events : (before ++ event :: rest).forM handle { g with now } = .error failure v := by
    rw [parts, run_bind_ok handled, run_bind_error failed]
  have set : (modify fun game => { game with now } : Action τ PUnit) g = .ok ⟨⟩ { g with now } := rfl
  rw [frame, run_bind_ok set, run_bind_error events]

end Action

/-- A call that is done leaves buttons and hotspots as they were, whatever they lead to. In every game
that comes of it later, by whatever is done in it, a click fails for want of a label exactly if what it
meets leads to no label of the program that is played then, and not to the reserved name; and so does
the frame in which the player clicks. -/
theorem clickable_after_call [Clock τ] {g t : Game τ} {path resolved label : Text}
    (done : Action.execute (.call path resolved label) g = .ok () t) :
    (t.state.hotspots = g.state.hotspots ∧ t.state.hud = g.state.hud) ∧
      ∀ later, t.Changes (fun _ => True) later →
        ∀ (now : τ) (before rest : List Event) (u : Game τ),
          before.forM Action.handle { later with now } = .ok () u → ∀ point,
          ((∃ failure v name,
              Action.handle (.click point) u = .error failure v ∧ failure.Lacks name) ↔
            u.Astray point) ∧
          (u.Astray point → ∃ failure name,
            (Operation.frame (before ++ .click point :: rest) now).failure? later = some failure ∧
              failure.Lacks name) := by
  refine ⟨(Action.keeps_clickable_call g resolved label).of_ok done,
    fun later _ now before rest u events point => ⟨Action.handle_click_lacks u point, fun astray => ?_⟩⟩
  obtain ⟨failure, v, name, failed, lacks⟩ := (Action.handle_click_lacks u point).mpr astray
  have ran : (Operation.frame (before ++ .click point :: rest) now).action later = .error failure v :=
    run_bind_error (Action.frame_fails_of_event events failed)
  exact ⟨failure, name, by rw [Operation.failure?, ran], lacks⟩

/-- A script with a hotspot that calls another script. -/
def doorFiles : FileTree :=
  ⟨⟨[("/game/main.vn",
      .file "label here: hotspot add door 0 0 10 10 -> here; call \"b.vn\" start;"),
    ("/game/b.vn", .file "label start: wait 10;")]⟩⟩

/-- A game with the hotspot, before the call. -/
def doorGame : Game Float :=
  let game := gameIn doorFiles { script := "/game/main.vn", commands := #[], labels := {} }
  { game with
    state.hotspots := ⟨[("door", ⟨"door", .rect ⟨0.0, 0.0, 10.0, 10.0⟩, "here"⟩)]⟩ }

/-- The call is done, and the hotspot is still there. The other script waits then, and in the next
frame the player clicks on the hotspot, which fails. A click beside it does not. -/
theorem door_after_call :
    ∃ t, Action.execute (.call "b.vn" "/game/b.vn" "start") doorGame = .ok () t ∧
      t.program.labels.contains "start" = true ∧ t.state.hotspots = doorGame.state.hotspots ∧
      (∃ failure name,
        (Operation.frame [.click ⟨5.0, 5.0⟩] 0.0).failure? (Operation.run.after t) = some failure ∧
          failure.Lacks name) ∧
      ¬ ∃ failure v name,
        Action.handle (.click ⟨50.0, 5.0⟩) { Operation.run.after t with now := 0.0 } =
          .error failure v ∧ failure.Lacks name := by
  obtain ⟨_, t, done, seen⟩ := exists_run
    (m := Action.execute (.call "b.vn" "/game/b.vn" "start")) (s := doorGame)
    (f := fun _ t =>
      let u := { Operation.run.after t with now := 0.0 }
      (t.program.labels.contains "start", u.clicked? ⟨5.0, 5.0⟩, u.clicked? ⟨50.0, 5.0⟩,
        u.program.labels.get? "here"))
    (b := (true, some (Text.ofString "here"), none, none)) (by decide +kernel)
  simp only [Prod.mk.injEq] at seen
  obtain ⟨known, met, missed, lacking⟩ := seen
  obtain ⟨⟨hotspots, -⟩, clicks⟩ := clickable_after_call done
  have later : t.Changes (fun _ => True) (Operation.run.after t) :=
    (Operation.changes_after .run t).mono fun _ _ => trivial
  refine ⟨t, done, known, hotspots, ?_, ?_⟩
  · refine (clicks _ later 0.0 [] [] _ rfl ⟨5.0, 5.0⟩).2 ⟨_, met, by decide, ?_⟩
    exact lacking
  · rw [(clicks _ later 0.0 [] [] _ rfl ⟨50.0, 5.0⟩).1]
    rintro ⟨target, found, -⟩
    cases missed.symm.trans found

/-- The call leads to a label of the other script, and the hotspot still leads to a label of the
first one, so that a click on it fails. -/
theorem door_dangles_after_call :
    ∃ program reached,
      Program.ofFile doorFiles true (.nth 0) "/game/main.vn" = .ok (program, reached) ∧
      let g : Game Float := Operation.run.after (gameIn doorFiles program)
      g.program.script = "/game/b.vn" ∧ g.program.labels.contains "start" = true ∧
      g.state.hotspots.values.map (·.target) = [Text.ofString "here"] ∧
      g.program.labels.contains "here" = false ∧
      (Operation.frame [.click ⟨5.0, 5.0⟩] 0.0).failure? g = some (.play (.unknownLabel "here")) := by
  obtain ⟨⟨program, reached⟩, read, after⟩ := exists_ok
    (x := Program.ofFile doorFiles true (.nth 0) "/game/main.vn")
    (f := fun r =>
      let g : Game Float := Operation.run.after (gameIn doorFiles r.1)
      (g.program.script, g.program.labels.contains "start", g.state.hotspots.values.map (·.target),
        g.program.labels.contains "here",
        (Operation.frame [.click ⟨5.0, 5.0⟩] 0.0).failure? g))
    (b := ("/game/b.vn", true, [Text.ofString "here"], false, some (.play (.unknownLabel "here"))))
    (by decide +kernel)
  simp only [Prod.mk.injEq] at after
  exact ⟨program, reached, read, after⟩

end VisualNovel
