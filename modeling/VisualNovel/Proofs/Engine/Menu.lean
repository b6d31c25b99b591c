import VisualNovel.Proofs.Clock
import VisualNovel.Proofs.Engine.Files
import VisualNovel.Proofs.Engine.Frame
import VisualNovel.Proofs.Engine.Inner
import VisualNovel.Proofs.Engine.Loading

/-!
The story under an open menu.

What the player does in a menu goes to the menu. It moves the cursor and turns pages, saves the
game, looks for saves and notes that the player wants to leave. Wherever it does more, by a new game
or by a save from which the game goes on, it closes the menu. So as long as the menu is open the
story under it does not move (`Game.Paused`), and a frame neither lets time pass nor ends a choice
whose time is over (`menu_pauses_story`).
-/

namespace VisualNovel

variable {τ : Type}

/-! ## 1. What a menu leaves alone -/

/-- The places that saving from a menu touches: those of the quick save and of numbered slots. -/
def MenuPlace (savePath place : Text) : Prop :=
  ∃ slot : Option Float, place ∈ savePlaces (saveFile savePath (slot.map slotName))

/-- The story has stood still. At most the menu, the wish to leave, the library, the saves and the
log are others than before; the library has kept its programs, and no file is another but saves of
the menu. -/
structure Game.Paused (g t : Game τ) : Prop where
  around : ∃ menu quitRequested library files logs,
    t = { g with menu, quitRequested, library, files, logs }
  library : g.library.Grown t.library
  files : g.files.Spares (MenuPlace g.setup.savePath) t.files

namespace Game.Paused

variable {g t u : Game τ}

theorem refl (g : Game τ) : g.Paused g := ⟨⟨_, _, _, _, _, rfl⟩, .refl _, .refl _ _⟩

theorem trans (h : g.Paused t) (h' : t.Paused u) : g.Paused u := by
  obtain ⟨_, _, _, _, _, rfl⟩ := h.around
  obtain ⟨_, _, _, _, _, rfl⟩ := h'.around
  exact ⟨⟨_, _, _, _, _, rfl⟩, h.library.trans h'.library, h.files.trans h'.files⟩

theorem setup (h : g.Paused t) : t.setup = g.setup := by
  obtain ⟨_, _, _, _, _, rfl⟩ := h.around
  rfl

theorem now (h : g.Paused t) : t.now = g.now := by
  obtain ⟨_, _, _, _, _, rfl⟩ := h.around
  rfl

/-- What a menu does to itself and to the log does not move the story. -/
theorem menu (h : g.Paused t) {menu : Option Menu} {quitRequested : Bool} {logs : Array LogRecord} :
    g.Paused { t with menu, quitRequested, logs } :=
  h.trans ⟨⟨_, _, _, _, _, rfl⟩, .refl _, .refl _ _⟩

end Game.Paused

/-! ## 2. Loading and saving -/

namespace Action

variable [Clock τ]

/-- If a game does not go on from a snapshot only the library and the log have changed. -/
theorem restore_otherwise (data : Snapshot τ) (g : Game τ) :
    Ends (restore data) g
      (fun done t => done = false →
        ∃ library logs, g.library.Grown library ∧ t = { g with library, logs })
      fun _ t => ∃ library logs, g.library.Grown library ∧ t = { g with library, logs } := by
  have stocked : ∀ {script t}, g.Searched script t →
      ∃ library logs, g.library.Grown library ∧ t = { g with library, logs } := by
    rintro script t ⟨library, logs, rfl, rfl | rfl⟩
    · exact ⟨_, _, .refl _, rfl⟩
    · exact ⟨_, _, Library.grown_load _ _ _, rfl⟩
  rw [restore, ends_bind, ends_get]
  refine Ends.bind (Ends.mono (ends_savedProgram g _) (fun _ _ => And.left)
    fun _ _ left => stocked left.1) fun found t searched => ?_
  obtain ⟨library, logs, grown, rfl⟩ := stocked searched
  cases found with
  | none => exact fun _ => ⟨_, _, grown, rfl⟩
  | some program =>
    refine .ite (fun _ => fun _ => ⟨_, _, grown, rfl⟩) fun _ => ?_
    rw [ends_bind_ok (resumeFrom_eq _ data program)]
    exact fun refused => by cases refused

/-- The same for loading. -/
theorem load_otherwise (slot : Option Text) (g : Game τ) :
    Ends (load slot) g
      (fun done t => done = false →
        ∃ library logs, g.library.Grown library ∧ t = { g with library, logs })
      fun _ t => ∃ library logs, g.library.Grown library ∧ t = { g with library, logs } := by
  have named : slotFile slot g = .ok (saveFile g.setup.savePath slot) g := rfl
  rw [load, ends_bind_ok named, loadFrom, ends_bind, ends_get]
  cases Snapshot.load g.files (saveFile g.setup.savePath slot) with
  | mk data? records =>
    have logged : logAll records g = .ok () { g with logs := g.logs ++ records.toArray } := rfl
    simp only
    rw [ends_bind_ok logged]
    cases data? with
    | none => exact fun _ => ⟨_, _, .refl _, rfl⟩
    | some data => exact restore_otherwise _ { g with logs := g.logs ++ records.toArray }

end Action

/-! ## 3. What the player does in a menu -/

/-- The menus that an open menu can become while it stays open: with the cursor on an entry, with
the cursor moved by one, or turned to a page. -/
inductive Menu.Becomes (settings : Settings) (menu : Menu) : Menu → Prop
  | stay : Becomes settings menu menu
  | point {pick : Ordinal} (there : (pick.get? (menu.entries settings)).isSome = true) :
      Becomes settings menu { menu with selected := pick }
  | up : Becomes settings menu (menu.move settings (-1))
  | down : Becomes settings menu (menu.move settings 1)
  | turn (page : MenuPage) : Becomes settings menu (menu.turnTo page)

theorem Menu.kind_move (menu : Menu) (settings : Settings) (delta : Int) :
    (menu.move settings delta).kind = menu.kind := by
  unfold move
  extract_lets count
  split <;> rfl

/-- A menu stays the menu that it is. -/
theorem Menu.Becomes.kind {settings : Settings} {menu later : Menu}
    (h : menu.Becomes settings later) : later.kind = menu.kind := by
  cases h with
  | up => exact menu.kind_move settings (-1)
  | down => exact menu.kind_move settings 1
  | stay | point | turn => rfl

/-- The menus that an entry leaves open: the menu, or another page of it. -/
def Menu.Turns (menu later : Menu) : Prop := later = menu ∨ ∃ page, later = menu.turnTo page

theorem Menu.Turns.becomes {menu later : Menu} (h : menu.Turns later) (settings : Settings) :
    menu.Becomes settings later := by
  obtain rfl | ⟨page, rfl⟩ := h
  · exact .stay
  · exact .turn page

/-- What becomes of a game under its menu: the menu is closed, or the story has stood still under
one of some menus. -/
inductive Game.Minds (menus : Menu → Prop) (g : Game τ) : Game τ → Prop
  | closed {t : Game τ} (setup : t.setup = g.setup) (now : t.now = g.now) (closed : t.menu = none) :
      Minds menus g t
  | paused {t : Game τ} (still : g.Paused t) {menu : Menu} (opened : t.menu = some menu)
      (mem : menus menu) : Minds menus g t

theorem Game.Minds.mono {menus more : Menu → Prop} {g t : Game τ} (h : g.Minds menus t)
    (sub : ∀ menu, menus menu → more menu) : g.Minds more t := by
  cases h with
  | closed setup now none => exact .closed setup now none
  | paused still opened mem => exact .paused still opened (sub _ mem)

namespace Action

variable [Clock τ] {g : Game τ} {menu : Menu} {menus : Menu → Prop}

/-- What is done with the menu after a save, whether the save has succeeded or not. -/
theorem minds_save (opened : g.menu = some menu) (slot : Option Float)
    {after : Option Text → Action τ Unit}
    (rest : ∀ path t, g.Paused t → t.menu = some menu →
      Keeps (g.Minds menus) (fun _ => True) (after path) t)
    (stays : menus menu) :
    Keeps (g.Minds menus) (fun _ => True) (do after (← save (slot.map slotName))) g := by
  have paused : ∀ t, (∃ files logs, g.files.SameBeyond
        (savePlaces (saveFile g.setup.savePath (slot.map slotName))) files ∧
        t = { g with files, logs }) → g.Paused t ∧ t.menu = some menu := by
    rintro t ⟨files, logs, same, rfl⟩
    exact ⟨⟨⟨_, _, _, _, _, rfl⟩, .refl _, same.spares fun place mem => ⟨slot, mem⟩⟩, opened⟩
  unfold Keeps
  refine Ends.bind (Ends.mono (save_changes (slot.map slotName) g) (fun _ t => paused t) ?_)
    fun path t ⟨still, opened⟩ => rest path t still opened
  intro e t ⟨saved, _⟩
  obtain ⟨still, opened⟩ := paused t saved
  exact ⟨.paused still opened stays, trivial⟩

/-- What is done with the menu after a load: a load that succeeds closes it. -/
theorem minds_load (opened : g.menu = some menu) (slot : Option Text)
    {after : Bool → Action τ Unit}
    (loaded : ∀ t, Keeps (fun u => u = { t with menu := none }) (fun _ => True) (after true) t)
    (failed : ∀ t, g.Paused t → t.menu = some menu →
      Keeps (g.Minds menus) (fun _ => True) (after false) t)
    (stays : menus menu) :
    Keeps (g.Minds menus) (fun _ => True) (do after (← load slot)) g := by
  have paused : ∀ t, (∃ library logs, g.library.Grown library ∧ t = { g with library, logs }) →
      g.Paused t ∧ t.menu = some menu := by
    rintro t ⟨library, logs, grown, rfl⟩
    exact ⟨⟨⟨_, _, _, _, _, rfl⟩, grown, .refl _ _⟩, opened⟩
  have otherwise := load_otherwise slot g
  have inner := inner_load slot g
  unfold Keeps Ends at inner
  unfold Ends at otherwise
  cases ran : load slot g with
  | ok done t =>
    rw [ran] at inner otherwise
    rw [keeps_bind_ok ran]
    cases done with
    | true =>
      exact (loaded t).mono (fun u same => same ▸ .closed inner.setup inner.now rfl) fun _ => id
    | false =>
      obtain ⟨still, opened⟩ := paused t (otherwise rfl)
      exact failed t still opened
  | error e t =>
    rw [ran] at otherwise
    obtain ⟨still, opened⟩ := paused t otherwise
    exact (ends_bind_error ran).mpr ⟨.paused still opened stays, trivial⟩

/-- An entry of a menu that is taken leaves the menu, turns it to a page, or closes it. -/
theorem minds_takeMenuAction (opened : g.menu = some menu) (name : Text) :
    Keeps (g.Minds menu.Turns) (fun _ => True) (takeMenuAction name) g := by
  have turn : ∀ page t, g.Paused t →
      g.Minds menu.Turns { t with menu := some (menu.turnTo page) } :=
    fun page t still => .paused still.menu rfl (.inr ⟨page, rfl⟩)
  have stay : ∀ t, g.Paused t → t.menu = some menu → g.Minds menu.Turns t :=
    fun t still opened => .paused still opened (.inl rfl)
  have close : ∀ t, g.Paused t → g.Minds menu.Turns { t with menu := none } :=
    fun t still => .closed still.setup still.now rfl
  have saved : ∀ slot : Option Float, Keeps (g.Minds menu.Turns) (fun _ => True)
      (do if (← save (slot.map slotName)).isSome then leaveAfterSave menu) g := by
    intro slot
    refine minds_save opened slot (fun path t still opened => ?_) (.inl rfl)
    refine .ite (fun _ => ?_) fun _ => stay t still opened
    unfold leaveAfterSave
    split
    · exact close t still
    · exact turn .main t still
  have same : g.Paused g := .refl g
  unfold takeMenuAction
  rw [keeps_get, opened]
  simp only
  split
  · next number _ =>
    refine .ite (fun _ => saved (some number)) fun _ => ?_
    exact minds_load opened _ (fun _ => rfl) stay (.inl rfl)
  · rw [restart, keeps_bind_ok (closeVideo_eq g)]
    exact .closed rfl rfl rfl
  · exact minds_load opened _ (fun _ => rfl)
      (fun t still opened => .paused still.menu opened (.inl rfl)) (.inl rfl)
  · exact turn .save g same
  · exact turn .load g same
  · exact turn .main g same
  · exact .ite (fun _ => close g same) fun _ => stay g same opened
  · exact .paused same.menu opened (.inl rfl)
  · exact saved none
  · refine minds_load opened _ (fun _ => rfl) (fun t still opened => ?_) (.inl rfl)
    exact .ite (fun _ => close t still) fun _ => stay t still opened
  · exact .paused same.menu opened (.inl rfl)

/-- The same for the entry under a pick. -/
theorem minds_takeMenuEntry (opened : g.menu = some menu) (pick : Ordinal) :
    Keeps (g.Minds menu.Turns) (fun _ => True) (takeMenuEntry menu pick) g := by
  unfold takeMenuEntry
  rw [keeps_get]
  split
  · exact minds_takeMenuAction opened _
  · exact .paused (.refl g) opened (.inl rfl)

/-- What the player does while a menu is open leaves the story as it is, or closes the menu. -/
theorem minds_menuEvent (opened : g.menu = some menu) (event : Event) :
    Keeps (g.Minds (menu.Becomes g.setup.settings)) (fun _ => True) (menuEvent menu event) g := by
  have becomes : ∀ later, menu.Turns later → menu.Becomes g.setup.settings later :=
    fun later turned => turned.becomes _
  have same : g.Paused g := .refl g
  have stay : g.Minds (menu.Becomes g.setup.settings) g := .paused same opened .stay
  have back : Keeps (g.Minds (menu.Becomes g.setup.settings)) (fun _ => True)
      (if menu.page ≠ .main then takeMenuAction MenuAction.backName
        else if menu.kind = .pause then setMenu none else pure ()) g := by
    refine .ite (fun _ => ?_) fun _ => .ite (fun _ => .closed rfl rfl rfl) fun _ => stay
    exact (minds_takeMenuAction opened _).mono (fun t h => h.mono becomes) fun _ => id
  unfold menuEvent
  rw [keeps_get]
  simp only
  split
  · next pick =>
    refine .ite (fun there => ?_) fun _ => stay
    -- The cursor is on the entry before the entry is taken, and a page begins with its own cursor.
    rw [setMenu, keeps_modify_bind]
    have entry := minds_takeMenuEntry (g := { g with menu := some { menu with selected := pick } })
      rfl pick
    refine entry.mono (fun t minds => ?_) fun _ => id
    cases minds with
    | closed setup now closed => exact .closed setup now closed
    | paused still opened turned =>
      refine .paused (same.menu.trans still) opened ?_
      obtain rfl | ⟨page, rfl⟩ := turned
      · exact .point there
      · exact .turn page
  · exact .paused same.menu rfl .up
  · exact .paused same.menu rfl .down
  · exact (minds_takeMenuEntry opened _).mono (fun t h => h.mono becomes) fun _ => id
  · exact back
  · exact back
  · exact stay

/-- One event. -/
theorem minds_handle (opened : g.menu = some menu) (event : Event) :
    Keeps (g.Minds (menu.Becomes g.setup.settings)) (fun _ => True) (handle event) g := by
  unfold handle
  rw [keeps_get, opened]
  exact minds_menuEvent opened event

end Action

/-! ## 4. From event to event -/

/-- What an event makes of a game: it is the same project at the same moment, and if a menu is open,
it is one that the menu before has become, or the pause menu that the player has opened. -/
structure Game.Moves (g t : Game τ) : Prop where
  setup : t.setup = g.setup
  now : t.now = g.now
  menu : ∀ later, t.menu = some later →
    later = { kind := .pause } ∨ ∃ menu, g.menu = some menu ∧ menu.Becomes g.setup.settings later

theorem Game.SameAbout.moves {g t : Game τ} (h : g.SameAbout t) : g.Moves t :=
  ⟨h.setup, h.now, fun later opened => .inr ⟨later, h.menu ▸ opened, .stay⟩⟩

theorem Game.Minds.moves {g t : Game τ} {menu : Menu} (opened : g.menu = some menu)
    (h : g.Minds (menu.Becomes g.setup.settings) t) : g.Moves t := by
  cases h with
  | closed setup now closed => exact ⟨setup, now, by simp [closed]⟩
  | paused still after becomes =>
    refine ⟨still.setup, still.now, fun later found => .inr ⟨menu, opened, ?_⟩⟩
    cases after.symm.trans found
    exact becomes

namespace Action

variable {g : Game τ} {menu : Menu}

theorem Inner.moves {α : Type} {m : Action τ α} (h : m.Inner) (g : Game τ) :
    Keeps g.Moves (fun _ => True) m g := (h g).mono (fun _ same => same.moves) fun _ => id

theorem moves_openPauseMenu (g : Game τ) : Keeps g.Moves (fun _ => True) openPauseMenu g := by
  unfold openPauseMenu
  rw [keeps_get]
  refine .ite (fun _ => (Game.SameAbout.refl g).moves) fun _ => ?_
  exact ⟨rfl, rfl, fun later opened => .inl (Option.some.inj opened).symm⟩

/-- A new game begins without a menu. -/
theorem moves_restart (g : Game τ) : Keeps g.Moves (fun _ => True) restart g := by
  rw [restart, keeps_bind_ok (closeVideo_eq g)]
  exact ⟨rfl, rfl, fun later opened => by cases opened⟩

variable [Clock τ]

theorem moves_storyKey (key : Key) (g : Game τ) :
    Keeps g.Moves (fun _ => True) (storyKey key) g := by
  unfold storyKey
  split
  · exact (moves_openPauseMenu g).bind fun _ _ moves => moves
  · exact (inner_save _).only.moves g
  · exact (inner_load _).only.moves g
  · exact (inner_get.bind fun _ => inner_if inner_toggleInventory).moves g
  · exact (inner_scroll _).only.moves g
  · exact (inner_scroll _).only.moves g
  · exact (inner_change _).moves g
  · exact (inner_change _).moves g
  · exact (inner_change _).moves g
  · exact (inner_pure _).moves g
  · exact (inner_pure _).moves g
  · exact (inner_pure _).moves g

/-- What an entry of a menu does to a game, whether a menu is open or not. -/
theorem moves_takeMenuAction (name : Text) (g : Game τ) :
    Keeps g.Moves (fun _ => True) (takeMenuAction name) g := by
  cases opened : g.menu with
  | none =>
    unfold takeMenuAction
    rw [keeps_get, opened]
    exact (Game.SameAbout.refl g).moves
  | some menu =>
    refine (minds_takeMenuAction opened name).mono (fun t minds => ?_) fun _ => id
    exact (minds.mono fun later turned => turned.becomes _).moves opened

/-- One event. -/
theorem moves_handle (event : Event) (g : Game τ) :
    Keeps g.Moves (fun _ => True) (handle event) g := by
  cases opened : g.menu with
  | some menu =>
    exact (minds_handle opened event).mono (fun _ minds => minds.moves opened) fun _ => id
  | none =>
    unfold handle
    rw [keeps_get, opened]
    refine .ite (fun _ => (inner_mapEvent event).moves g) fun _ => ?_
    split
    · exact (inner_choiceEvent _ event).moves g
    · exact (inner_questionEvent _ event).moves g
    · refine .ite (fun _ => (inner_phoneEvent event).moves g) fun _ => ?_
      split
      · exact (inner_click _).moves g
      · exact moves_storyKey _ g
      · exact (inner_pure _).moves g

/-- While the menu stays open, no event moves the story. -/
theorem paused_handleAll {events : List Event} {t : Game τ} (opened : g.menu = some menu)
    (stays : ∀ done, done <+: events → ∀ u, done.forM handle g = .ok () u → u.menu.isSome = true)
    (handled : events.forM handle g = .ok () t) :
    g.Paused t ∧ ∃ later, t.menu = some later ∧ later.kind = menu.kind := by
  induction events generalizing g menu with
  | nil =>
    cases handled
    exact ⟨.refl _, menu, opened, rfl⟩
  | cons event rest ih =>
    obtain ⟨_, u, first, others⟩ := run_bind_eq_ok.mp handled
    have step := minds_handle opened event
    rw [Keeps, Ends, first] at step
    have before : u.menu.isSome = true :=
      stays [event] (by simp) u ((run_bind_ok first).trans rfl)
    cases step with
    | closed setup now closed =>
      rw [closed] at before
      cases before
    | paused paused opened becomes =>
      obtain ⟨still, last, opened, kind⟩ := ih opened
        (fun done part v ran => stays (event :: done) (by simpa using part) v
          ((run_bind_ok first).trans ran)) others
      exact ⟨paused.trans still, last, opened, kind.trans becomes.kind⟩

end Action

/-! ## 5. Frames -/

/-- While a menu stays open a frame does not move the story. If the menu is open before the frame
and after each of the events, and the frame does not fail, then the status is that of the menu, and
the game is the one before, at the new time, with at most another page and cursor of the same menu,
another wish to leave, more programs in the library, other saves of the menu and other log records.
So in particular the state with a choice whose time is over, the program and the list of requests
are the same. -/
theorem menu_pauses_story [Clock τ] {g t : Game τ} {menu : Menu} (opened : g.menu = some menu)
    {events : List Event} {now : τ} {status : Status}
    (stays : ∀ done, done <+: events →
      ∀ u, done.forM Action.handle { g with now } = .ok () u → u.menu.isSome = true)
    (framed : Action.frame events now g = .ok status t) :
    (menu.kind = .title ∧ status = .titleMenu ∨ menu.kind = .pause ∧ status = .pauseMenu) ∧
      ∃ later quitRequested library files logs,
        t = { g with now, menu := some later, quitRequested, library, files, logs } ∧
        later.kind = menu.kind ∧ g.library.Grown library ∧
        g.files.Spares (MenuPlace g.setup.savePath) files := by
  obtain ⟨u, handled⟩ : ∃ u, events.forM Action.handle { g with now } = .ok () u := by
    rw [Action.frame, run_bind_ok (run_modify _ g)] at framed
    obtain ⟨_, u, handled, -⟩ := run_bind_eq_ok.mp framed
    exact ⟨u, handled⟩
  obtain ⟨paused, later, still, kind⟩ :=
    Action.paused_handleAll (g := { g with now }) opened stays handled
  have stayed : Action.frame events now g = .ok u.status u :=
    Action.frame_of_overlaid ((run_bind_ok handled).trans (Action.checkTimeout_of_menu still))
      (by rw [still]; rfl)
  obtain ⟨rfl, rfl⟩ : u.status = status ∧ u = t := by
    cases stayed.symm.trans framed
    exact ⟨rfl, rfl⟩
  refine ⟨?_, ?_⟩
  · rw [Game.status, still, ← kind]
    simp only [Status.ofMenu]
    cases later.kind with
    | title => exact .inl ⟨rfl, rfl⟩
    | pause => exact .inr ⟨rfl, rfl⟩
  · obtain ⟨_, quitRequested, library, files, logs, rfl⟩ := paused.around
    cases still
    exact ⟨later, quitRequested, library, files, logs, rfl, kind, paused.library, paused.files⟩

/-- A choice for which there is one second. -/
def hurrySource : Text :=
  "ask \"Which way?\" timeout 1 default 2 \"Left\" -> left \"Right\" -> right;" ++
    "label left: label right:"

/-- The player has opened the pause menu over the choice. -/
def hurryGame (program : Program) : Game Int :=
  Operation.openPauseMenu.after (Operation.run.after (gameIn (soloFiles hurrySource) program))

/-- The player goes up to the last entry, takes the one that opens the page for saving, and goes
down. -/
def hurryEvents : List Event := [.key .up, .choose (.nth 3), .key .down]

/-- Four seconds later the choice is still there, below the second slot of the page for saving.
Without the menu its second option would have been taken. -/
theorem menu_pauses_story_hurry :
    ∃ program reached t,
      Program.ofFile (soloFiles hurrySource) false (.nth 0) "/game/main.vn" =
        .ok (program, reached) ∧
      (hurryGame program).state.choice.isSome = true ∧
      ((Operation.frame [] 5000).after
        { hurryGame program with menu := none }).state.choice.isSome = false ∧
      Action.frame hurryEvents 5000 (hurryGame program) = .ok .pauseMenu t ∧
      t.menu = some { kind := .pause, page := .save, selected := .nth 1 } ∧
      t.state = (hurryGame program).state ∧ t.requests = (hurryGame program).requests := by
  obtain ⟨⟨program, reached⟩, found, form⟩ := exists_ok
    (x := Program.ofFile (soloFiles hurrySource) false (.nth 0) "/game/main.vn")
    (f := fun r =>
      let g := hurryGame r.1
      let under := { g with now := 5000 }
      (g.menu, g.state.choice.isSome,
        ((Operation.frame [] 5000).after { g with menu := none }).state.choice.isSome,
        (hurryEvents.inits.all fun done =>
          match done.forM Action.handle under with
          | .ok _ u => u.menu.isSome
          | .error _ _ => true),
        match Action.frame hurryEvents 5000 g with
        | .ok _ t => t.menu
        | .error _ _ => none))
    (b := (some { kind := .pause }, true, false, true,
      some { kind := .pause, page := .save, selected := .nth 1 })) (by decide +kernel)
  simp only [Prod.mk.injEq, List.all_eq_true, List.mem_inits] at form
  obtain ⟨opened, pending, past, stays, after⟩ := form
  obtain ⟨status, t, framed⟩ : ∃ status t,
      Action.frame hurryEvents 5000 (hurryGame program) = .ok status t := by
    cases ran : Action.frame hurryEvents 5000 (hurryGame program) with
    | ok status t => exact ⟨status, t, rfl⟩
    | error e t => simp [ran] at after
  rw [framed] at after
  obtain ⟨status, later, quitRequested, library, files, logs, same, -⟩ :=
    menu_pauses_story opened (fun done part u ran => by simpa [ran] using stays done part) framed
  obtain ⟨⟨⟩, -⟩ | ⟨-, rfl⟩ := status
  exact ⟨program, reached, t, found, pending, past, framed, after, same ▸ rfl, same ▸ rfl⟩

end VisualNovel
