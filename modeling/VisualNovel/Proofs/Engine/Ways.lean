import VisualNovel.Proofs.Engine.Menu
import VisualNovel.Proofs.Engine.Moment
import VisualNovel.Proofs.Engine.Picking

/-!
Three ways to an option.

An option of a choice is taken by its number, by the player or from outside, or by the cursor, which
the keys turn from option to option and round the ends. A key moves the cursor by one remainder
(`Action.handle_turn`), so many keys move it by their sum (`Action.forM_turns`), and from the option
that they lead to nothing is left of the way (`Action.confirm_after_turns`). So all ways do the same
(`three_ways_to_option`), provided that the cursor is on an option at all. It is in every game that
is played, and so is the cursor of an open menu on an entry (`Game.Pointed`).
-/

namespace VisualNovel

variable {τ : Type}

/-! ## 1. The cursor of a choice -/

/-- As many steps back as there are entries left to the end of the round are so many steps ahead. -/
theorem add_back_mod (s k : Nat) {n : Nat} (some : 0 < n) :
    (s + (n - k % n) * (n - 1)) % n = (s + k) % n := by
  have less := Nat.mod_lt k some
  obtain ⟨rest, whole⟩ : ∃ rest, n = k % n + 1 + rest := ⟨n - (k % n + 1), by omega⟩
  have steps : (n - k % n) * (n - 1) = n * rest + k % n := by
    generalize k % n = r at whole
    subst whole
    rw [show r + 1 + rest - r = rest + 1 by omega, show r + 1 + rest - 1 = r + rest by omega]
    ring
  rw [steps, ← Nat.add_assoc, Nat.add_mod, Nat.add_mul_mod_self_left, ← Nat.add_mod,
    Nat.add_mod_mod]

/-- The game with the cursor of its choice somewhere. -/
def Game.pointing (g : Game τ) (c : Choice τ) (p : Ordinal) : Game τ :=
  { g with state := { g.state with choice := some { c with selected := p } } }

theorem Game.pointing_self {g : Game τ} {c : Choice τ} (pending : g.state.choice = some c) :
    g.pointing c c.selected = g := by
  have same : ({ g.state with choice := some c } : State τ) = g.state := by rw [← pending]
  exact congrArg (fun s => ({ g with state := s } : Game τ)) same

/-- A way down: so often the key for it, and the key that confirms. -/
def wayDown (k : Nat) : List Event := List.replicate k (.key .down) ++ [.key .confirm]

/-- A way up. -/
def wayUp (k : Nat) : List Event := List.replicate k (.key .up) ++ [.key .confirm]

namespace Action

variable {g : Game τ} {c : Choice τ} {i : Nat}

/-- Once an option is taken it does not matter where the cursor was. -/
theorem choose_pointing (pending : g.state.choice = some c) (p : Ordinal)
    (inside : i < c.options.length) :
    choose (.nth i) (g.pointing c p) = choose (.nth i) g := by
  have found : Ordinal.get? (.nth i) c.options = some c.options[i] :=
    List.getElem?_eq_getElem inside
  have there : (g.pointing c p).state.choice = some { c with selected := p } := rfl
  rw [choose_of_picked (picked?_of_choice pending found),
    choose_of_picked (picked?_of_choice there found)]
  have same : (g.pointing c p).state.closed = g.state.closed := by
    simp [Game.pointing, State.closed, pending]
  rw [same]
  rfl

variable [Clock τ]

theorem forM_append (done rest : List Event) :
    (done ++ rest).forM handle = (do done.forM handle; rest.forM handle : Action τ Unit) :=
  List.forM_append

theorem forM_singleton (event : Event) : [event].forM handle g = handle event g := by
  have one : [event].forM handle g = (do handle event; pure () : Action τ Unit) g := rfl
  rw [one, run_bind]
  cases handle event g <;> rfl

/-- With nothing over a choice the events go to it. -/
theorem handle_of_choice (closed : g.menu = none) (clear : g.state.map.active = false)
    (pending : g.state.choice = some c) (event : Event) :
    handle event g = choiceEvent c event g := by
  simp [handle, run_bind, closed, clear, pending]

/-- A key that moves the cursor. -/
theorem handle_turn (closed : g.menu = none) (clear : g.state.map.active = false)
    (counted : c.options.length < Ordinal.bound) {key : Key} {d s : Nat}
    (turns : key = .down ∧ d = 1 ∨ key = .up ∧ d = c.options.length - 1)
    (inside : s < c.options.length) :
    handle (.key key) (g.pointing c (.nth s)) =
      .ok () (g.pointing c (.nth ((s + d) % c.options.length))) := by
  have nonempty := Nat.zero_lt_of_lt inside
  have taken := handle_of_choice (g := g.pointing c (.nth s)) closed clear rfl (.key key)
  rw [taken]
  obtain ⟨rfl, rfl⟩ | ⟨rfl, rfl⟩ := turns
  · have sum : [1].foldl (· + ·) (Int.ofNat s) = Int.ofNat (s + 1) := rfl
    rw [← Ordinal.turn_eq nonempty counted sum]
    rfl
  · have sum : [-1, Int.ofNat c.options.length].foldl (· + ·) (Int.ofNat s) =
        Int.ofNat (s + (c.options.length - 1)) := by
      simp only [List.foldl_cons, List.foldl_nil, Int.ofNat_eq_natCast]
      omega
    rw [← Ordinal.turn_eq nonempty counted sum]
    rfl

/-- The same key many times. -/
theorem forM_turns (closed : g.menu = none) (clear : g.state.map.active = false)
    (counted : c.options.length < Ordinal.bound) {key : Key} {d : Nat}
    (turns : key = .down ∧ d = 1 ∨ key = .up ∧ d = c.options.length - 1) (k : Nat) {s : Nat}
    (inside : s < c.options.length) :
    (List.replicate k (Event.key key)).forM handle (g.pointing c (.nth s)) =
      .ok () (g.pointing c (.nth ((s + k * d) % c.options.length))) := by
  induction k generalizing s with
  | zero =>
    rw [Nat.zero_mul, Nat.add_zero, Nat.mod_eq_of_lt inside]
    rfl
  | succ k ih =>
    have step := handle_turn closed clear counted turns inside
    have rest := ih (Nat.mod_lt (s + d) (Nat.zero_lt_of_lt inside))
    rw [Nat.mod_add_mod, Nat.add_assoc, Nat.add_comm d, ← Nat.succ_mul] at rest
    exact (run_bind_ok step).trans rest

/-- Confirming takes the option under the cursor. -/
theorem confirm_after_turns (closed : g.menu = none) (clear : g.state.map.active = false)
    (pending : g.state.choice = some c) (counted : c.options.length < Ordinal.bound) {key : Key}
    {d : Nat} (turns : key = .down ∧ d = 1 ∨ key = .up ∧ d = c.options.length - 1) {k s : Nat}
    (cursor : c.selected = .nth s) (inside : s < c.options.length) :
    (List.replicate k (Event.key key) ++ [Event.key .confirm]).forM handle g =
      choose (.nth ((s + k * d) % c.options.length)) g := by
  have moved := forM_turns closed clear counted turns k inside
  rw [← cursor, Game.pointing_self pending] at moved
  have less := Nat.mod_lt (s + k * d) (Nat.zero_lt_of_lt inside)
  rw [forM_append, run_bind_ok moved, ← choose_pointing pending _ less, forM_singleton]
  exact handle_of_choice (g := g.pointing c (.nth ((s + k * d) % c.options.length))) closed clear
    rfl (.key .confirm)

/-- The ways to an option do the same. -/
theorem forM_way (closed : g.menu = none) (clear : g.state.map.active = false)
    (pending : g.state.choice = some c) (counted : c.options.length < Ordinal.bound) {k s : Nat}
    (cursor : c.selected = .nth s) (inside : s < c.options.length)
    (leads : (s + k) % c.options.length = i) {way : List Event}
    (mem : way ∈ [wayDown k, wayUp (c.options.length - k % c.options.length), [.choose (.nth i)]]) :
    way.forM handle g = choose (.nth i) g := by
  have nonempty := Nat.zero_lt_of_lt inside
  subst leads
  simp only [List.mem_cons, List.not_mem_nil, or_false] at mem
  obtain rfl | rfl | rfl := mem
  · have down := confirm_after_turns closed clear pending counted (.inl ⟨rfl, rfl⟩) (k := k) cursor
      inside
    rwa [Nat.mul_one] at down
  · rw [← add_back_mod s k nonempty]
    exact confirm_after_turns closed clear pending counted (.inr ⟨rfl, rfl⟩) cursor inside
  · rw [forM_singleton, handle_of_choice closed clear pending]
    have there : (Ordinal.get? (.nth ((s + k) % c.options.length)) c.options).isSome = true := by
      simpa [Ordinal.get?] using Nat.mod_lt _ nonempty
    exact congrFun (if_pos there) g

/-- A frame that begins with a way to an option begins with the option. -/
theorem frame_of_way {way : List Event} {pick : Ordinal} {now : τ}
    (same : way.forM handle { g with now } = choose pick { g with now }) (rest : List Event) :
    frame (way ++ rest) now g = (do choose pick; frame rest now) { g with now } := by
  rw [frame, run_bind_ok (run_modify _ g), forM_append]
  cases taken : choose pick { g with now } with
  | ok _ t =>
    have moment : t.now = now := (inner_choose pick).atOnce.of_ok taken
    have again : (modify fun game => { game with now } : Action τ PUnit) t = .ok ⟨⟩ t := by
      rw [run_modify, ← moment]
    rw [run_bind_ok taken, frame, run_bind_ok again, bind_assoc, run_bind_ok (same.trans taken)]
  | error e t =>
    rw [run_bind_error taken, bind_assoc, run_bind_error (same.trans taken)]

end Action

/-! ## 2. The cursor of a menu -/

/-- The cursor is on an entry, or at the top of a menu without entries. -/
def Menu.Points (settings : Settings) (menu : Menu) : Prop :=
  ∃ k < max 1 (menu.entries settings).length, menu.selected = .nth k

theorem Menu.points_top (settings : Settings) {menu : Menu} (top : menu.selected = .nth 0) :
    menu.Points settings := ⟨0, by omega, top⟩

/-- Moving the cursor by one, up or down, leads to an entry. -/
theorem Menu.Points.step {settings : Settings} {menu : Menu} (h : menu.Points settings)
    (counted : menu.entryCount settings < Ordinal.bound) {delta : Int}
    (once : delta = 1 ∨ delta = -1) : (menu.move settings delta).Points settings := by
  obtain ⟨k, inside, cursor⟩ := h
  unfold Menu.move
  extract_lets count
  split
  · exact ⟨k, inside, cursor⟩
  · next some =>
    have nonempty : 0 < count := Nat.pos_of_ne_zero some
    have ahead : 0 ≤ [delta, Int.ofNat count].foldl (· + ·) (Int.ofNat k) := by
      simp only [List.foldl_cons, List.foldl_nil, Int.ofNat_eq_natCast]
      omega
    obtain ⟨j, less, turned⟩ := Ordinal.turn_inside nonempty counted ahead
    have entries : count = (menu.entries settings).length := (menu.length_entries settings).symm
    refine ⟨j, ?_, by rw [cursor]; exact turned⟩
    exact lt_max_of_lt_right (entries ▸ less)

/-- What an open menu becomes has its cursor on an entry if the menu has. -/
theorem Menu.Becomes.points {settings : Settings} {menu later : Menu}
    (counted : menu.entryCount settings < Ordinal.bound) (becomes : menu.Becomes settings later)
    (h : menu.Points settings) : later.Points settings := by
  cases becomes with
  | stay => exact h
  | up => exact h.step counted (.inr rfl)
  | down => exact h.step counted (.inl rfl)
  | turn page => exact Menu.points_top settings rfl
  | @point pick there =>
    obtain ⟨entry, found⟩ := Option.isSome_iff_exists.mp there
    cases pick with
    | nth k =>
      obtain ⟨less, -⟩ := List.getElem?_eq_some_iff.mp found
      exact ⟨k, lt_max_of_lt_right less, rfl⟩
    | stray x => cases found

/-- In a game with some settings, whose menus have not too many entries, the cursor of an open menu
is on an entry. -/
structure Game.Pointed (settings : Settings) (g : Game τ) : Prop where
  same : g.setup.settings = settings
  counted : ∀ menu : Menu, menu.entryCount settings < Ordinal.bound
  menu : ∀ menu, g.menu = some menu → menu.Points settings

theorem Game.Pointed.moves {settings : Settings} {g t : Game τ} (h : g.Pointed settings)
    (moves : g.Moves t) : t.Pointed settings := by
  refine ⟨moves.setup ▸ h.same, h.counted, fun later opened => ?_⟩
  obtain rfl | ⟨menu, before, becomes⟩ := moves.menu later opened
  · exact Menu.points_top _ rfl
  · rw [h.same] at becomes
    exact becomes.points (h.counted menu) (h.menu menu before)

/-- The operations that open no menu from outside with its cursor elsewhere. -/
def Operation.OpensInside (settings : Settings) (op : Operation τ) : Prop :=
  ∀ menu, op = .setMenu (some menu) → menu.Points settings

section

variable {settings : Settings} {g : Game τ}

open VisualNovel.Action (Keeps)

/-- An action that only moves the menu. -/
theorem Game.Pointed.keeps {α : Type} {m : Action τ α} (pointed : g.Pointed settings)
    (h : Keeps g.Moves (fun _ => True) m g) : Keeps (Game.Pointed settings) (fun _ => True) m g :=
  h.mono (fun _ => pointed.moves) fun _ => id

variable [Clock τ]

theorem Game.Pointed.handleAll (pointed : g.Pointed settings) (events : List Event) :
    Keeps (Game.Pointed settings) (fun _ => True) (events.forM Action.handle) g := by
  induction events generalizing g with
  | nil => exact pointed
  | cons event rest ih => exact (pointed.keeps (Action.moves_handle event g)).bind fun _ _ => ih

/-- One frame. -/
theorem Game.Pointed.frame (pointed : g.Pointed settings) (events : List Event) (now : τ) :
    Keeps (Game.Pointed settings) (fun _ => True) (Action.frame events now) g := by
  have set : ({ g with now } : Game τ).Pointed settings := { pointed with }
  unfold Action.frame
  rw [Action.keeps_modify_bind]
  refine (set.handleAll events).bind fun _ t pointed => ?_
  refine (pointed.keeps (Action.inner_checkTimeout.moves t)).bind fun _ u pointed => ?_
  rw [Action.keeps_get]
  refine .ite (fun _ => pointed) fun _ => ?_
  refine (pointed.keeps (Action.inner_passTime.moves u)).bind fun _ v pointed => ?_
  exact pointed.keeps ((Action.inner_runAtMost _).moves v)

/-- After every operation the cursor of an open menu is on an entry. -/
theorem Game.Pointed.after (pointed : g.Pointed settings) {op : Operation τ}
    (inside : op.OpensInside settings) : (op.after g).Pointed settings := by
  have inner : ∀ {m : Action τ Unit}, m.Inner → Keeps (Game.Pointed settings) (fun _ => True) m g :=
    fun h => pointed.keeps (h.moves g)
  refine Operation.holds_after (F := fun _ => True) ?_
  cases op with
  | frame events now => exact (pointed.frame events now).bind fun _ _ h => h
  | run => exact inner (Action.inner_runAtMost _).only
  | jump target => exact inner (Action.inner_jump target)
  | choose pick => exact inner (Action.inner_choose pick)
  | submit text => exact inner (Action.inner_submit text)
  | advance => exact inner Action.inner_advance.only
  | toggleInventory => exact inner Action.inner_toggleInventory
  | scroll delta => exact inner (Action.inner_scroll delta).only
  | openPauseMenu => exact (pointed.keeps (Action.moves_openPauseMenu g)).bind fun _ _ h => h
  | takeMenuAction name => exact pointed.keeps (Action.moves_takeMenuAction name g)
  | setMenu menu =>
    exact ⟨pointed.same, pointed.counted, fun later opened => inside later (congrArg _ opened)⟩
  | restart => exact pointed.keeps (Action.moves_restart g)
  | save slot => exact inner (Action.inner_save slot).only
  | load slot => exact inner (Action.inner_load slot).only
  | restore data => exact inner (Action.inner_restore data).only
  | setVoice playing => exact { pointed with }
  | close => exact inner Action.inner_closeVideo

/-- In every game that is played the cursor of an open menu is on an entry. -/
theorem Played.pointed {setup : Setup τ} {library : Library} {files : FileTree} {program : Program}
    (counted : ∀ menu : Menu, menu.entryCount setup.settings < Ordinal.bound)
    {allowed : List (Snapshot τ) → Operation τ → Prop}
    (inside : ∀ taken op, allowed taken op → op.OpensInside setup.settings)
    {taken : List (Snapshot τ)} {g : Game τ}
    (played : Played allowed (Game.start setup library files program) taken g) :
    g.Pointed setup.settings := by
  induction played with
  | start =>
    refine ⟨rfl, counted, fun menu opened => ?_⟩
    simp only [Game.start, Option.ite_none_right_eq_some] at opened
    obtain ⟨-, ⟨⟩⟩ := opened
    exact Menu.points_top _ rfl
  | act before ok ih => exact ih.after (inside _ _ ok)
  | keep before ih => exact ih

end

/-! ## 3. The ways -/

/-- In every game that is played from a new one the cursor of an open menu is on an entry, and that
of a pending choice is on an option. With nothing over the choice, three ways lead to each option:
so many times the key down that the cursor comes to it round the ends, or as many times the key up
as are left to whole rounds, both confirmed, or the event with its number. Handling them changes the
game as taking the option from outside does, or fails as that does, and a frame that begins with one
of them goes on as after the option. The numbers in every save and in every snapshot from outside
have no fraction, and no map hides their choice. -/
theorem three_ways_to_option [Clock τ] {setup : Setup τ} {library : Library} {files : FileTree}
    {program : Program} {original : Text → Option Text} (texts : files.Within original)
    (read : Reading original program.script program)
    (shelf : ∀ script edition, library.shelf.get? script = some edition →
      Reading original script edition.program)
    (short : ShortChoices original) (saves : files.AllSaves Snapshot.Pickable)
    (counted : ∀ menu : Menu, menu.entryCount setup.settings < Ordinal.bound)
    {taken : List (Snapshot τ)} {g : Game τ}
    (played : Played
      (fun taken op => HandsPickable taken op ∧ op.OpensInside setup.settings)
      (Game.start setup library files program) taken g) :
    (∀ menu, g.menu = some menu → menu.Points setup.settings) ∧
      ∀ c, g.state.choice = some c →
        ∃ s < c.options.length, c.selected = .nth s ∧
          (g.menu = none → g.state.map.active = false →
            ∀ i k, (s + k) % c.options.length = i →
              ∀ way ∈ [wayDown k, wayUp (c.options.length - k % c.options.length),
                  [.choose (.nth i)]],
                way.forM Action.handle g = Action.choose (.nth i) g ∧
                  ∀ rest now, Action.frame (way ++ rest) now g =
                    (do Action.choose (.nth i); Action.frame rest now) { g with now }) := by
  have pointed := played.pointed counted fun _ _ allowed => allowed.2
  have start : (Game.start setup library files program).Pickable original :=
    ⟨.start texts.holds read shelf, State.pickable_start _, saves⟩
  have pickable := (played.invariant (P := Game.Pickable original) start (fun g h => h.snapshot)
    (fun taken op ok good data hands => (ok.1 data hands).elim (good data) id)
    fun given g t handed change h => change.pickable short handed h).1
  refine ⟨pointed.menu, fun c pending => ?_⟩
  obtain ⟨s, inside, cursor⟩ := pickable.state.points c pending
  have few := (pickable.state.numbered c pending).short
  refine ⟨s, inside, cursor, fun closed clear i k leads way mem => ⟨?_, fun rest now => ?_⟩⟩
  · exact Action.forM_way closed clear pending few cursor inside leads mem
  · exact Action.frame_of_way
      (Action.forM_way (g := { g with now }) closed clear pending few cursor inside leads mem) rest

/-- The choices of a project with one script are those of its program. -/
theorem shortChoices_solo {source : Text} {program : Program}
    (read : Reading (soloFiles source).text? "/game/main.vn" program) (few : program.ShortChoices) :
    ShortChoices (soloFiles source).text? := by
  intro script other reading
  obtain rfl := script_of_solo reading
  obtain rfl := reading.unique read
  exact few

/-- A story that begins with a choice of three options. -/
def starSource : Text :=
  "ask \"Which way?\" \"Left\" -> left \"Ahead\" -> ahead \"Right\" -> right;" ++
    "label left: label ahead: label right:"

/-- The player has moved the cursor to the second option. -/
def starGame (program : Program) : Game Int :=
  (Operation.frame [.key .down] 0).after
    (Operation.run.after (gameIn (soloFiles starSource) program))

/-- The player has opened the pause menu before the choice, and has moved its cursor up. -/
def starMenu (program : Program) : Game Int :=
  (Operation.frame [.key .up] 0).after
    (Operation.openPauseMenu.after (gameIn (soloFiles starSource) program))

/-- From the second of three options four steps down lead to the third, as two steps up do. -/
theorem three_ways_to_option_star :
    ∃ program reached,
      Program.ofFile (soloFiles starSource) false (.nth 0) "/game/main.vn" =
        .ok (program, reached) ∧
      (starGame program).state.choice.map (·.selected) = some (.nth 1) ∧
      (starMenu program).menu.map (·.selected) = some (.nth 5) ∧
      (∀ menu, (starMenu program).menu = some menu → menu.Points Settings.default) ∧
      ∀ way ∈ [wayDown 4, wayUp 2, [.choose (.nth 2)]],
        way.forM Action.handle (starGame program) = Action.choose (.nth 2) (starGame program) := by
  obtain ⟨⟨program, reached⟩, found, form⟩ := exists_ok
    (x := Program.ofFile (soloFiles starSource) false (.nth 0) "/game/main.vn")
    (f := fun r =>
      (r.1.commands,
        (starGame r.1).state.choice.map fun c => (c.options.length, c.selected),
        (starGame r.1).menu.isNone && !(starGame r.1).state.map.active,
        (starMenu r.1).menu.map (·.selected)))
    (b := (#[.choice "Which way?"
        [⟨"Left", "left"⟩, ⟨"Ahead", "ahead"⟩, ⟨"Right", "right"⟩] none none,
      .label "left", .label "ahead", .label "right"], some (3, .nth 1), true, some (.nth 5)))
    (by decide +kernel)
  simp only [Prod.mk.injEq, Option.map_eq_some_iff, Bool.and_eq_true, Option.isNone_iff_eq_none,
    Bool.not_eq_true'] at form
  obtain ⟨commands, ⟨c, pending, three, second⟩, ⟨closed, clear⟩, menu, opened, last⟩ := form
  have read : Reading (soloFiles starSource).text? "/game/main.vn" program :=
    Reading.ofFile (FileTree.within_text? _).holds found
  have short : ShortChoices (soloFiles starSource).text? := by
    refine shortChoices_solo read fun prompt options timeout default mem => ?_
    rw [commands] at mem
    obtain ⟨-, rfl, -, -⟩ : prompt = "Which way?" ∧
        options = [⟨"Left", "left"⟩, ⟨"Ahead", "ahead"⟩, ⟨"Right", "right"⟩] ∧
        timeout = none ∧ default = none := by
      simpa using mem
    decide
  have counted : ∀ menu : Menu, menu.entryCount Settings.default < Ordinal.bound := by
    intro menu
    unfold Menu.entryCount
    split <;> decide +kernel
  have noSaves : FileTree.NoSaves (soloFiles starSource).text? :=
    FileTree.noSaves_text? (by decide +kernel)
  have own : ∀ op : Operation Int, (∀ data, op ≠ .restore data) → (∀ menu, op ≠ .setMenu menu) →
      HandsPickable [] op ∧ op.OpensInside Settings.default :=
    fun op restores opens => ⟨fun data hands => absurd hands (restores data),
      fun menu same => absurd same (opens _)⟩
  have run := own .run (fun _ => nofun) fun _ => nofun
  have openPause := own .openPauseMenu (fun _ => nofun) fun _ => nofun
  have frame := fun events => own (.frame events 0) (fun _ => nofun) fun _ => nofun
  obtain ⟨points, -⟩ := three_ways_to_option (g := starMenu program) (FileTree.within_text? _)
    (read.own rfl) (fun _ _ found => by cases found) short (noSaves.all _) counted
    (.act (.act .start openPause) (frame _))
  obtain ⟨-, ways⟩ := three_ways_to_option (g := starGame program) (FileTree.within_text? _)
    (read.own rfl) (fun _ _ found => by cases found) short (noSaves.all _) counted
    (.act (.act .start run) (frame _))
  obtain ⟨s, -, cursor, ways⟩ := ways c pending
  obtain rfl : s = 1 := by
    rw [second] at cursor
    cases cursor
    rfl
  rw [three] at ways
  refine ⟨program, reached, found, by rw [pending, ← second]; rfl, by rw [opened, ← last]; rfl,
    points, fun way mem => (ways closed clear 2 4 rfl way mem).1⟩

/-! ## 4. Half an option -/

/-- A save file is accepted that has the cursor half way between two options, and the game goes on
from it. The player moves the cursor down, and it is half an option behind the last one. -/
theorem cursor_passes_options :
    ∃ (program : Program) (c : Choice Float),
      Reading (soloFiles crossSource).text? program.script program ∧
      (Snapshot.ofJson? (crossSave (.stray 0.5)).toJson).isSome = true ∧
      (∃ t, Action.restore (crossSave (.stray 0.5)) (gameIn (soloFiles crossSource) program) =
        .ok true t) ∧
      ((Operation.frame [.key .down] 0.0).after (crossGame (.stray 0.5) program)).state.choice =
        some c ∧
      c.options.length = 2 ∧ c.selected = .stray 1.5 ∧ ¬ c.Points := by
  obtain ⟨⟨program, reached⟩, found, form⟩ := exists_ok
    (x := Program.ofFile (soloFiles crossSource) false (.nth 0) "/game/main.vn")
    (f := fun r =>
      ((match Action.restore (crossSave (.stray 0.5)) (gameIn (soloFiles crossSource) r.1) with
        | .ok done _ => done
        | .error _ _ => false),
        ((Operation.frame [.key .down] 0.0).after (crossGame (.stray 0.5) r.1)).state.choice.map
          fun c => (c.options.length, c.selected)))
    (b := (true, some (2, .stray 1.5)))
    (by decide +kernel)
  obtain ⟨restored, moved⟩ := Prod.mk.inj form
  have goes : ∃ t, Action.restore (crossSave (.stray 0.5))
      (gameIn (soloFiles crossSource) program) = .ok true t := by
    split at restored
    · next done t same =>
      subst restored
      exact ⟨t, same⟩
    · cases restored
  obtain ⟨c, pending, form⟩ := Option.map_eq_some_iff.mp moved
  obtain ⟨two, behind⟩ := Prod.mk.inj form
  have read := Reading.ofFile (FileTree.within_text? _).holds found
  refine ⟨program, c, read.own rfl, by decide +kernel, goes, pending, two, behind, ?_⟩
  rintro ⟨k, -, cursor⟩
  rw [behind] at cursor
  cases cursor

end VisualNovel
