import VisualNovel.Proofs.Engine.Seeking
import VisualNovel.Proofs.Engine.Ways

/-!
Exits that are taken.

The player takes an exit by its number, with a key or with a click, and the clock takes one when the
time for a choice is over (`Selection`). Which exit that is can be read off the game
(`Selection.exit?`). To take it is to close what is in the way and to jump to its target
(`Selection.action_of_exit`); where there is none, no name is looked up (`Selection.seeksOnly`).
-/

namespace VisualNovel

variable {τ : Type}

/-! ## 1. Which exit is taken -/

/-- The exit under a pick: an option of the choice, or else a point of the map. -/
def Game.pickedExit? (g : Game τ) (pick : Ordinal) : Option Exit :=
  match g.state.choice with
  | some choice => (pick.get? choice.options).map .option
  | none => if g.state.map.active then (pick.get? g.state.map.points.toList).map .point else none

/-- The exit under a click: a point of the map, or a button or a hotspot with nothing over the
story. -/
def Game.clickedExit? (g : Game τ) (point : Point) : Option Exit :=
  if g.menu.isSome then none
  else if g.state.map.active then
    (g.state.map.points.find? (·.holds g.setup.settings.mapPointRadius point)).map .point
  else if g.state.choice.isSome || g.state.question.isSome || g.state.phone.unread then none
  else
    match Action.buttonAt? g point with
    | some button => some (.button button)
    | none =>
      if g.state.dialogue.isSome then none else (Action.hotspotAt? g point).map .hotspot

/-- The choice whose time is over. -/
def Game.overdue? [Clock τ] (g : Game τ) : Option (Choice τ) :=
  if g.menu.isSome then none
  else g.state.choice.filter fun c =>
    c.timeout.any fun t => !Clock.lt (Clock.sub g.now c.started) (Clock.ofMillis t)

/-- What takes exits: a pick from outside, what the player does, and the time. -/
inductive Selection where
  | pick (pick : Ordinal)
  | event (event : Event)
  | timeout

namespace Selection

variable [Clock τ]

/-- How the game answers it. -/
def action : Selection → Action τ Unit
  | .pick p => Action.choose p
  | .event e => Action.handle e
  | .timeout => Action.checkTimeout

/-- The exit that is taken. A pick over an open map takes only the number of a point, and with a choice
behind the map it takes the option of that number. -/
def exit? (g : Game τ) : Selection → Option Exit
  | .pick p => g.pickedExit? p
  | .event (.click point) => g.clickedExit? point
  | .event (.choose p) =>
    if g.menu.isSome || (g.state.map.active && (p.get? g.state.map.points.toList).isNone) then none
    else g.pickedExit? p
  | .event (.key .confirm) =>
    if g.menu.isSome || g.state.map.active then none
    else g.state.choice.bind fun c => g.pickedExit? c.selected
  | .event _ => none
  | .timeout => g.overdue?.bind fun c => g.pickedExit? c.fallback

end Selection

namespace Game

variable {g : Game τ} {pick : Ordinal} {point : Point} {x : Exit}

theorem map_pickedExit : (g.pickedExit? pick).map Exit.target = g.picked? pick := by
  unfold pickedExit? picked?
  cases g.state.choice with
  | some choice => exact Option.map_map ..
  | none =>
    simp only
    split
    · exact Option.map_map ..
    · rfl

theorem map_clickedExit : (g.clickedExit? point).map Exit.target = g.clicked? point := by
  unfold clickedExit? clicked?
  split
  · rfl
  split
  · exact Option.map_map ..
  split
  · rfl
  unfold clickTarget?
  cases Action.buttonAt? g point with
  | some button => rfl
  | none =>
    simp only
    split
    · rfl
    · exact Option.map_map ..

/-- What is picked is an exit of the state. -/
theorem mem_exits_of_picked (found : g.pickedExit? pick = some x) : x ∈ g.state.exits := by
  have exits := State.exitsIn_iff.mpr fun x (mem : x ∈ g.state.exits) => mem
  unfold pickedExit? at found
  split at found
  · next choice pending =>
    obtain ⟨option, here, rfl⟩ := Option.map_eq_some_iff.mp found
    exact exits.options choice pending option (Ordinal.mem_of_get? here)
  · split at found
    · obtain ⟨point, here, rfl⟩ := Option.map_eq_some_iff.mp found
      exact exits.points point (Array.mem_toList_iff.mp (Ordinal.mem_of_get? here))
    · cases found

/-- What is clicked is an exit of the state. -/
theorem mem_exits_of_clicked (found : g.clickedExit? point = some x) : x ∈ g.state.exits := by
  have exits := State.exitsIn_iff.mpr fun x (mem : x ∈ g.state.exits) => mem
  unfold clickedExit? at found
  split at found
  · cases found
  split at found
  · obtain ⟨place, here, rfl⟩ := Option.map_eq_some_iff.mp found
    exact exits.points place (Array.mem_of_find?_eq_some here)
  split at found
  · cases found
  split at found
  · next button here =>
    cases found
    unfold Action.buttonAt? at here
    split at here
    · exact exits.buttons button (List.mem_of_find?_eq_some here)
    · cases here
  · split at found
    · cases found
    · obtain ⟨hotspot, here, rfl⟩ := Option.map_eq_some_iff.mp found
      exact exits.hotspots hotspot (List.mem_of_find?_eq_some here)

end Game

/-! ## 2. What taking an exit does -/

namespace Selection

variable [Clock τ] {g : Game τ} {x : Exit}

/-- Nothing is taken that is not there. -/
theorem mem_exits {sel : Selection} (found : sel.exit? g = some x) : x ∈ g.state.exits := by
  unfold exit? at found
  split at found
  · exact Game.mem_exits_of_picked found
  · exact Game.mem_exits_of_clicked found
  · split at found
    · cases found
    · exact Game.mem_exits_of_picked found
  · split at found
    · cases found
    · obtain ⟨c, -, found⟩ := Option.bind_eq_some_iff.mp found
      exact Game.mem_exits_of_picked found
  · cases found
  · obtain ⟨c, -, found⟩ := Option.bind_eq_some_iff.mp found
    exact Game.mem_exits_of_picked found

omit [Clock τ] in
theorem choose_of_pickedExit {p : Ordinal} (found : g.pickedExit? p = some x) :
    Action.choose p g = Action.jump x.target (g.inState g.state.closed) :=
  Action.choose_of_picked (by rw [← Game.map_pickedExit, found, Option.map_some])

/-- With the map over the story the events go to it. -/
theorem handle_of_map (closed : g.menu = none) (active : g.state.map.active = true) (event : Event) :
    Action.handle event g = Action.mapEvent event g := by
  simp [Action.handle, run_bind, closed, active]

/-- A number that the player names is picked, if it is not hidden by the map. -/
theorem handle_choose {p : Ordinal} (found : g.pickedExit? p = some x) (closed : g.menu = none)
    (inside : g.state.map.active = true → (p.get? g.state.map.points.toList).isSome = true) :
    Action.handle (.choose p) g = Action.choose p g := by
  cases active : g.state.map.active with
  | true =>
    rw [handle_of_map closed active, Action.mapEvent, run_bind_ok (run_get g)]
    simp only [inside active, if_true]
  | false =>
    unfold Game.pickedExit? at found
    cases pending : g.state.choice with
    | none => simp [pending, active] at found
    | some c =>
      simp only [pending, Option.map_eq_some_iff] at found
      obtain ⟨option, here, -⟩ := found
      rw [Action.handle_of_choice closed active pending, Action.choiceEvent]
      simp only [here, Option.isSome_some, if_true]

/-- When the time for a choice is over, its fallback is picked. -/
theorem checkTimeout_of_overdue {c : Choice τ} (overdue : g.overdue? = some c) :
    ∃ logs, Action.checkTimeout g = Action.choose c.fallback { g with logs } := by
  unfold Game.overdue? at overdue
  split at overdue
  · cases overdue
  · next closed =>
    obtain ⟨pending, late⟩ := Option.filter_eq_some_iff.mp overdue
    have free : g.menu = none := by simpa using closed
    cases limit : c.timeout with
    | none => simp [limit] at late
    | some t =>
      rw [limit, Option.any_some, Bool.not_eq_true'] at late
      let message := Text.ofString "choice timed out; taking option " ++ c.fallback.next.text
      have picks : Action.checkTimeout g =
          (do Action.log .debug message; Action.choose c.fallback : Action τ Unit) g := by
        rw [Action.checkTimeout, run_bind_ok (run_get g)]
        simp only [pending, free, limit]
        rw [if_neg (by rw [late]; exact Bool.false_ne_true)]
        rfl
      exact ⟨g.logs.push ⟨.debug, "runtime", message⟩, picks⟩

/-- To take an exit is to jump to its target, once what is in the way is closed. -/
theorem action_of_exit {sel : Selection} (found : sel.exit? g = some x) :
    ∃ state logs, sel.action g = Action.jump x.target { g with state, logs } := by
  unfold exit? at found
  split at found
  · exact ⟨_, g.logs, choose_of_pickedExit found⟩
  · next point =>
    have clicked : g.clicked? point = some x.target := by
      rw [← Game.map_clickedExit, found, Option.map_some]
    exact ⟨_, g.logs, Action.handle_click_of_clicked clicked⟩
  · next p =>
    split at found
    · cases found
    · next free =>
      obtain ⟨closed, inside⟩ : g.menu = none ∧
          (g.state.map.active = true → (p.get? g.state.map.points.toList).isSome) := by
        simpa [Option.isSome_iff_ne_none] using free
      exact ⟨_, g.logs, (handle_choose found closed inside).trans (choose_of_pickedExit found)⟩
  · split at found
    · cases found
    · next free =>
      obtain ⟨c, pending, found⟩ := Option.bind_eq_some_iff.mp found
      simp only [Bool.or_eq_true, not_or, Bool.not_eq_true, Option.isSome_eq_false_iff,
        Option.isNone_iff_eq_none] at free
      have taken := Action.handle_of_choice free.1 free.2 pending (.key .confirm)
      exact ⟨_, g.logs, taken.trans (choose_of_pickedExit found)⟩
  · cases found
  · obtain ⟨c, overdue, found⟩ := Option.bind_eq_some_iff.mp found
    obtain ⟨logs, late⟩ := checkTimeout_of_overdue overdue
    exact ⟨_, logs, late.trans (choose_of_pickedExit (g := { g with logs }) found)⟩

end Selection

/-! ## 3. Which names are looked up -/

namespace Action

variable {N : Text → Prop} {A : Exit → Prop} {g : Game τ}

/-- A pick looks up where the exit leads that it names. -/
theorem confined_choose {pick : Ordinal}
    (known : ∀ x, g.pickedExit? pick = some x → N (stripRootMark x.target)) :
    (choose pick : Action τ Unit).Confined N A g := by
  unfold Game.pickedExit? at known
  unfold choose
  refine confined_state ?_
  split
  · next choice pending =>
    split
    · exact confined_fail _
    · next option found =>
      refine (confined_change fun exits => { exits with options := nofun }).bind
        fun _ _ _ => confined_jump (known (.option option) ?_)
      simp only [pending, found, Option.map_some]
  · next pending =>
    refine .ite (fun active => ?_) fun _ => confined_fail _
    split
    · exact confined_fail _
    · next point found =>
      refine (confined_change fun exits => { exits with }).bind
        fun _ _ _ => confined_jump (known (.point point) ?_)
      simp only [pending, active, found, if_true, Option.map_some]

theorem confined_follow {target : Text} (known : N (stripRootMark target)) :
    (follow target : Action τ Unit).Confined N A g := by
  unfold follow
  split
  · exact (confined_change fun exits => { exits with }).bind fun _ _ _ => confined_jump known
  · exact confined_jump known

theorem confined_questionEvent (question : Question) (event : Event) :
    (questionEvent question event : Action τ Unit).Confined N A g := by
  unfold questionEvent
  simp only
  split
  · exact confined_change fun exits => { exits with }
  · exact confined_change fun exits => { exits with }
  · exact confined_submit _
  · exact confined_pure _

theorem confined_phoneEvent (event : Event) :
    (phoneEvent event : Action τ Unit).Confined N A g := by
  unfold phoneEvent
  split <;> first | exact confined_change fun exits => { exits with } | exact confined_pure _

variable [Clock τ]

theorem confined_loadAny (slot : Option Text) :
    (load slot : Action τ Bool).Confined N (fun _ => True) g :=
  confined_load fun _ _ => Snapshot.exitsIn_iff.mpr fun _ _ => trivial

omit [Clock τ] in
theorem confined_restart : (restart : Action τ Unit).Confined N A g :=
  confined_closeVideo.bind fun _ _ _ =>
    confined_enter (fun _ => rfl) (fun _ _ => rfl) rfl fun _ => State.exitsIn_start _

theorem confined_takeMenuAction (name : Text) :
    (takeMenuAction name : Action τ Unit).Confined N (fun _ => True) g := by
  have close : ∀ {c : Prop} [Decidable c] {k : Game τ},
      (if c then setMenu none else pure () : Action τ Unit).Confined N (fun _ => True) k :=
    confined_if fun _ => confined_setMenu _
  unfold takeMenuAction
  refine confined_get (fun _ _ => rfl) ?_
  split
  · exact confined_pure _
  · split
    · refine .ite (fun _ => ?_) fun _ => ?_
      · exact (confined_save _).bind fun _ _ _ => confined_if fun _ => confined_setMenu _
      · exact (confined_loadAny _).bind fun _ _ _ => close
    · exact confined_restart
    · refine (confined_loadAny _).bind fun _ _ _ => ?_
      exact .ite (fun _ => confined_setMenu _) fun _ => confined_log _ _
    · exact confined_setMenu _
    · exact confined_setMenu _
    · exact confined_setMenu _
    · exact close
    · exact confined_modify (fun _ _ => rfl) rfl rfl id
    · exact (confined_save _).bind fun _ _ _ => confined_if fun _ => confined_setMenu _
    · exact (confined_loadAny _).bind fun _ _ _ => close
    · exact confined_log _ _

theorem confined_takeMenuEntry (menu : Menu) (pick : Ordinal) :
    (takeMenuEntry menu pick : Action τ Unit).Confined N (fun _ => True) g := by
  unfold takeMenuEntry
  refine confined_get (fun _ _ => rfl) ?_
  split
  · exact confined_takeMenuAction _
  · exact confined_pure _

theorem confined_menuEvent (menu : Menu) (event : Event) :
    (menuEvent menu event : Action τ Unit).Confined N (fun _ => True) g := by
  have back : (if menu.page ≠ .main then takeMenuAction MenuAction.backName
      else if menu.kind = .pause then setMenu none else pure () : Action τ Unit).Confined N
        (fun _ => True) g :=
    .ite (fun _ => confined_takeMenuAction _) fun _ => confined_if fun _ => confined_setMenu _
  unfold menuEvent
  refine confined_get (fun _ _ => rfl) ?_
  simp only
  split
  · exact confined_if fun _ => (confined_setMenu _).bind fun _ _ _ => confined_takeMenuEntry _ _
  · exact confined_setMenu _
  · exact confined_setMenu _
  · exact confined_takeMenuEntry _ _
  · exact back
  · exact back
  · exact confined_pure _

theorem confined_mapEvent {event : Event} (closed : g.menu = none)
    (active : g.state.map.active = true)
    (known : ∀ x, (Selection.event event).exit? g = some x → N (stripRootMark x.target)) :
    (mapEvent event : Action τ Unit).Confined N A g := by
  unfold mapEvent
  refine confined_get (fun _ _ => rfl) ?_
  cases event with
  | click point =>
    simp only
    split
    · next place found =>
      refine (confined_change fun exits => { exits with }).bind
        fun _ _ _ => confined_jump (known (.point place) ?_)
      simp [Selection.exit?, Game.clickedExit?, closed, active, found]
    · exact confined_pure _
  | choose pick =>
    refine confined_if fun inside => confined_choose fun x found => known x ?_
    rw [← found]
    simp [Selection.exit?, closed, Option.isNone_eq_false_iff.mpr inside]
  | key key =>
    cases key <;> first | exact confined_change fun exits => { exits with } | exact confined_pure _
  | text text => exact confined_pure _

theorem confined_choiceEvent {choice : Choice τ} {event : Event} (closed : g.menu = none)
    (clear : g.state.map.active = false) (pending : g.state.choice = some choice)
    (known : ∀ x, (Selection.event event).exit? g = some x → N (stripRootMark x.target)) :
    (choiceEvent choice event).Confined N A g := by
  have turned : ∀ terms, (moveChoice choice terms).Confined N A g := by
    refine fun terms => confined_change fun exits => { exits with options := ?_ }
    rintro c ⟨⟩
    exact exits.options choice pending
  unfold choiceEvent
  split
  · next pick =>
    refine .ite (fun _ => confined_choose fun x found => known x ?_) fun _ => confined_log _ _
    rw [← found]
    simp [Selection.exit?, closed, clear]
  · exact turned _
  · exact turned _
  · refine confined_choose fun x found => known x ?_
    rw [← found]
    simp [Selection.exit?, closed, clear, pending]
  · exact confined_pure _

omit [Clock τ] in
theorem confined_click {point : Point}
    (known : ∀ x, g.clickedExit? point = some x → N (stripRootMark x.target))
    (closed : g.menu = none) (clear : g.state.map.active = false) (choice : g.state.choice = none)
    (question : g.state.question = none) (read : g.state.phone.unread = false) :
    (click point : Action τ Unit).Confined N A g := by
  have free : g.clickedExit? point =
      match Action.buttonAt? g point with
      | some button => some (.button button)
      | none =>
        if g.state.dialogue.isSome then none else (Action.hotspotAt? g point).map .hotspot := by
    simp [Game.clickedExit?, closed, clear, choice, question, read]
  unfold click
  refine confined_get (fun _ _ => rfl) ?_
  split
  · next button found =>
    exact confined_follow (known (.button button) (by rw [free, found]))
  · next missed =>
    refine .ite (fun _ => confined_change fun exits => { exits with }) fun silent => ?_
    split
    · next hotspot found =>
      refine confined_follow (known (.hotspot hotspot) ?_)
      rw [free, missed]
      simp only [if_neg silent, found, Option.map_some]
    · exact confined_pure _

/-- The key of the inventory works only if the inventory can be opened. All other keys on the story look
up no name. -/
theorem confined_storyKey {key : Key} (known : key = .inventory → N inventoryToggle) :
    (storyKey key : Action τ Unit).Confined N (fun _ => True) g := by
  unfold storyKey
  cases key with
  | menu => exact confined_openPauseMenu.only
  | quickSave => exact (confined_save _).only
  | quickLoad => exact (confined_loadAny _).only
  | inventory =>
    intro h alike
    obtain ⟨⟨labels, items, rfl, -, opens⟩, -⟩ := id alike
    rw [together_get, show (g.leading labels items).setup.features.items = _ from opens (known rfl)]
    exact confined_if (fun _ => confined_toggleInventory) _ alike
  | pageUp | pageDown => exact (confined_scroll _).only
  | back | advance | confirm => exact confined_change fun exits => { exits with }
  | up | down | erase => exact confined_pure _

/-- Whatever the player does looks up only where the exit leads that it takes, except for the key of the
inventory. -/
theorem confined_handle {event : Event}
    (known : ∀ x, (Selection.event event).exit? g = some x → N (stripRootMark x.target))
    (key : event = .key .inventory → N inventoryToggle) :
    (handle event : Action τ Unit).Confined N (fun _ => True) g := by
  unfold handle
  refine confined_get (fun _ _ => rfl) ?_
  split
  · exact confined_menuEvent _ _
  · next closed =>
    refine .ite (fun active => confined_mapEvent closed active known) fun inactive => ?_
    have clear := Bool.eq_false_iff.mpr inactive
    split
    · next pending => exact confined_choiceEvent closed clear pending known
    · exact confined_questionEvent _ _
    · next choice question =>
      refine .ite (fun _ => confined_phoneEvent _) fun unread => ?_
      split
      · exact confined_click known closed clear choice question (Bool.eq_false_iff.mpr unread)
      · exact confined_storyKey fun same => key (by rw [same])
      · exact confined_pure _

/-- When the time for a choice is over, the exit is taken that its fallback names. -/
theorem confined_checkTimeout
    (known : ∀ x, Selection.timeout.exit? g = some x → N (stripRootMark x.target)) :
    (checkTimeout : Action τ Unit).Confined N A g := by
  unfold checkTimeout
  refine confined_get (fun _ _ => rfl) ?_
  split
  · next choice pending closed =>
    split
    · exact confined_pure _
    · next limit timed =>
      refine .ite (fun _ => confined_pure _) fun passed => ?_
      refine (confined_log _ _).bind fun _ t logged => ?_
      cases logged
      have overdue : g.overdue? = some choice := by
        simp [Game.overdue?, closed, pending, timed, Bool.eq_false_iff.mpr passed]
      refine confined_choose fun x found => known x ?_
      rw [Selection.exit?, overdue]
      exact found
  · exact confined_pure _

end Action

theorem Selection.confined [Clock τ] {N : Text → Prop} {g : Game τ} {sel : Selection}
    (known : ∀ x, sel.exit? g = some x → N (stripRootMark x.target))
    (key : sel = .event (.key .inventory) → N inventoryToggle) :
    sel.action.Confined N (fun _ => True) g := by
  cases sel with
  | pick p => exact Action.confined_choose known
  | event e => exact Action.confined_handle known fun same => key (by rw [same])
  | timeout => exact Action.confined_checkTimeout known

/-- A selection looks up the name of the target of the exit that it takes, and none if it takes no exit,
but for the key of the inventory. -/
theorem Selection.seeksOnly [Clock τ] (sel : Selection) (g : Game τ) :
    sel.action.SeeksOnly (fun name =>
      (∃ x, sel.exit? g = some x ∧ stripRootMark x.target = name) ∨
        sel = .event (.key .inventory) ∧ name = inventoryToggle) g :=
  (confined (fun x found => .inl ⟨x, found, rfl⟩) fun same => .inr ⟨same, rfl⟩).seeksOnly

end VisualNovel
