import Mathlib.Logic.Relation
import VisualNovel.Engine.Run
import VisualNovel.Proofs.Script.Library
import VisualNovel.Proofs.Stateful
import VisualNovel.Proofs.Story.Change
import VisualNovel.Proofs.Table

/-!
What an action can do to a game.

`Game.Change` lists the changes that a game can go through, and `Game.Changes` are chains of them. An
action of the engine, whether it succeeds or fails, leaves a game that such a chain leads to
(`Changes.execute` for a command, `Changes.handle` for an event, `Changes.frame` for a frame). So what
every single change keeps, is kept by all actions and by all runs, and nobody has to look at the
actions again.

A snapshot that a game goes on from comes from a save file, or is handed over; which ones are handed
over is left open (`given`).
-/

namespace VisualNovel

variable {τ : Type}

/-! ## 1. Actions that keep something -/

namespace Action

variable {α β : Type} {P : Game τ → Prop} {F : Failure → Prop} {g : Game τ}

/-- What holds of a game holds after an action, whether it succeeds or fails, and it fails only in
certain ways. -/
def Keeps (P : Game τ → Prop) (F : Failure → Prop) (m : Action τ α) (g : Game τ) : Prop :=
  Ends m g (fun _ => P) (fun e t => P t ∧ F e)

theorem Keeps.bind {m : Action τ α} {f : α → Action τ β} (first : Keeps P F m g)
    (second : ∀ a t, P t → Keeps P F (f a) t) : Keeps P F (m >>= f) g :=
  Ends.bind first second

theorem keeps_get {f : Game τ → Action τ β} : Keeps P F (get >>= f) g ↔ Keeps P F (f g) g := Iff.rfl

theorem keeps_state {f : State τ → Action τ β} :
    Keeps P F (state >>= f) g ↔ Keeps P F (f g.state) g := Iff.rfl

theorem keeps_modify_bind {f : Game τ → Game τ} {k : PUnit → Action τ β} :
    Keeps P F (modify f >>= k) g ↔ Keeps P F (k ⟨⟩) (f g) := Iff.rfl

theorem keeps_change_bind {f : State τ → State τ} {k : Unit → Action τ β} :
    Keeps P F (change f >>= k) g ↔ Keeps P F (k ⟨⟩) { g with state := f g.state } := Iff.rfl

theorem keeps_set_bind {t : Game τ} {k : PUnit → Action τ β} :
    Keeps P F (set t >>= k) g ↔ Keeps P F (k ⟨⟩) t := Iff.rfl

theorem keeps_bind_ok {m : Action τ α} {f : α → Action τ β} {a : α} {t : Game τ}
    (h : m g = .ok a t) : Keeps P F (m >>= f) g ↔ Keeps P F (f a) t := ends_bind_ok h

theorem keeps_of_ok {m : Action τ α} {a : α} {t : Game τ} (h : m g = .ok a t) (kept : P t) :
    Keeps P F m g := by
  unfold Keeps Ends
  rw [h]
  exact kept

theorem Keeps.ite {c : Prop} [Decidable c] {m n : Action τ α} (yes : c → Keeps P F m g)
    (no : ¬ c → Keeps P F n g) : Keeps P F (if c then m else n) g := Ends.ite yes no

theorem Keeps.mono {Q : Game τ → Prop} {G : Failure → Prop} {m : Action τ α} (h : Keeps P F m g)
    (weaker : ∀ t, P t → Q t) (fails : ∀ e, F e → G e) : Keeps Q G m g :=
  Ends.mono h (fun _ => weaker) fun e t ⟨kept, failed⟩ => ⟨weaker t kept, fails e failed⟩

/-- What two arguments say of an action holds together. -/
theorem Keeps.and {Q : Game τ → Prop} {G : Failure → Prop} {m : Action τ α}
    (left : Keeps P F m g) (right : Keeps Q G m g) :
    Keeps (fun t => P t ∧ Q t) (fun e => F e ∧ G e) m g := by
  unfold Keeps Ends at *
  cases ran : m g with
  | ok a t =>
    rw [ran] at left right
    exact ⟨left, right⟩
  | error e t =>
    rw [ran] at left right
    exact ⟨⟨left.1, right.1⟩, left.2, right.2⟩

end Action

/-! ## 2. Changes of a game -/

/-- The snapshot of a game. -/
def Game.snapshot [Clock τ] (g : Game τ) : Snapshot τ :=
  .ofState g.state (Path.toProject g.setup.root g.program.script) g.now

/-- A snapshot that a save file of the tree holds. -/
def FileTree.Stores [Clock τ] (files : FileTree) (data : Snapshot τ) : Prop :=
  ∃ path saved, (Snapshot.load files path).1 = some saved ∧ data = saved.mapTime Clock.ofMillis

/-- The program that a game has at hand for a script: the one that is played if it is that of the
script, and otherwise the one in its library. -/
def Game.Offers (g : Game τ) (script : Text) (program : Program) : Prop :=
  if script = Path.absolute g.program.script then program = g.program
  else ∃ edition, g.library.shelf.get? (Path.absolute script) = some edition ∧
    program = edition.program

/-- A request is about a video. -/
def AssetRequest.isVideo : AssetRequest → Bool
  | .openVideo .. | .lookVideo _ | .closeVideo .. => true
  | _ => false

/-- One change of a game. -/
inductive Game.Change [Clock τ] (given : Snapshot τ → Prop) : Game τ → Game τ → Prop
  | state {g : Game τ} {s : State τ} (change : g.state.Change g.program s) :
      Change given g { g with state := s }
  /-- What stands around the story. -/
  | around {g : Game τ} {menu : Option Menu} {quitRequested : Bool} {now : τ} {voicePlaying : Bool}
      {logs : Array LogRecord} :
      Change given g { g with menu, quitRequested, now, voicePlaying, logs }
  | request {g : Game τ} {r : AssetRequest} (other : r.isVideo = false) :
      Change given g { g with requests := g.requests.push r }
  -- The video.
  /-- A video is opened and looked at. Its number is that of the request that opens it. -/
  | openVideo {g : Game τ} {video : Video τ} (dark : g.state.video = none)
      (numbered : video.playback.opening = g.requests.size) :
      Change given g
        { g with
          requests := (g.requests.push (.openVideo video.playback.path video.playback.loop)).push
            (.lookVideo video.playback.opening)
          state := { g.state with video := some video } }
  | lookVideo {g : Game τ} {video later : Video τ} (playing : g.state.video = some video)
      (opening : later.playback.opening = video.playback.opening)
      (path : later.playback.path = video.playback.path)
      (loop : later.playback.loop = video.playback.loop) :
      Change given g
        { g with
          requests := g.requests.push (.lookVideo video.playback.opening)
          state := { g.state with video := some later } }
  | closeVideo {g : Game τ} {video : Video τ} (playing : g.state.video = some video) :
      Change given g
        { g with
          requests := g.requests.push (.closeVideo video.playback.path video.playback.opening)
          state := { g.state with video := none } }
  -- The library.
  | load {g : Game τ} (path : Text) :
      Change given g { g with library := (g.library.load g.files path).library }
  | evict {g : Game τ} (path : Text) : Change given g { g with library := g.library.evict path }
  | clearLibrary {g : Game τ} : Change given g { g with library := g.library.clear }
  -- Save files.
  | save {g : Game τ} (path : Text) :
      Change given g
        { g with files := ((g.snapshot.mapTime Clock.toMillis).save g.files path).files }
  -- Other programs.
  /-- A call that leads to a label of the script that is called. -/
  | call {g : Game τ} {path resolved label : Text} {edition : Edition} {index : Nat}
      (mem : .call path resolved label ∈ g.program.commands) (free : g.state.Free)
      (shelved : g.library.shelf.get? (Path.absolute resolved) = some edition)
      (found : edition.program.labels.get? (stripRootMark label) = some index) :
      Change given g
        { g with
          program := edition.program
          state :=
            { g.state.introduceAll edition.program with loading := none, index := .nth index } }
  /-- A call that leads to no label: the program is another one and the next command is not. -/
  | stray {g : Game τ} {path resolved label : Text} {edition : Edition}
      (mem : .call path resolved label ∈ g.program.commands) (free : g.state.Free)
      (shelved : g.library.shelf.get? (Path.absolute resolved) = some edition)
      (nowhere : stripRootMark label = inventoryToggle ∨
        edition.program.labels.get? (stripRootMark label) = none) :
      Change given g
        { g with
          program := edition.program
          state := { g.state.introduceAll edition.program with loading := none } }
  | restart {g : Game τ} (dark : g.state.video = none) :
      Change given g { g with program := g.entry, state := ({} : State τ).introduceAll g.entry }
  | resume {g : Game τ} {data : Snapshot τ} {program : Program}
      (source : given data ∨ g.files.Stores data)
      (offered : g.Offers (Path.fromProject g.setup.root data.script) program)
      (inside : data.index.exceeds program.commands.size = false) (dark : g.state.video = none) :
      Change given g
        { g with program, state := (data.toState g.now).introduceAll program }

variable [Clock τ] {given : Snapshot τ → Prop} {g₀ g : Game τ}

/-- Changes one after another. -/
def Game.Changes (given : Snapshot τ → Prop) : Game τ → Game τ → Prop :=
  Relation.ReflTransGen (Game.Change given)

/-- What every change keeps is kept by all of them. -/
theorem Game.Changes.keep {P : Game τ → Prop} (h : g₀.Changes given g)
    (step : ∀ g t, Game.Change given g t → P g → P t) (first : P g₀) : P g := by
  induction h with
  | refl => exact first
  | tail _ change ih => exact step _ _ change ih

/-- A state holds a target: something that can be chosen or clicked leads there. -/
inductive State.Holds (s : State τ) : Text → Prop
  | option {choice : Choice τ} {option : ChoiceOption} (pending : s.choice = some choice)
      (mem : option ∈ choice.options) : Holds s option.target
  | point {point : MapPoint} (mem : point ∈ s.map.points) : Holds s point.target
  | button {button : HudButton} (mem : button ∈ s.hud.values) : Holds s button.target
  | hotspot {hotspot : Hotspot} (mem : hotspot ∈ s.hotspots.values) : Holds s hotspot.target

/-- Some command of a program goes to another script. -/
def Program.Calls (program : Program) : Prop :=
  ∃ path resolved label, .call path resolved label ∈ program.commands

/-- A game has no label of a name, although something leads there: a command, or what its state
holds. -/
def Game.Misses (g : Game τ) (name : Text) : Prop :=
  g.program.labels.get? name = none ∧ name ≠ inventoryToggle ∧
    ∃ target, stripRootMark target = name ∧
      (g.state.Holds target ∨ ∃ c ∈ g.program.commands, target ∈ c.targets)

/-- A failure for want of a label. -/
def Failure.Lacks (name : Text) : Failure → Prop
  | .fault found => found.cause = .play (.unknownLabel name)
  | _ => False

/-- How actions fail: for want of a label only if the game came to miss one, or had a call to do. -/
def Game.Fails (given : Snapshot τ → Prop) (g₀ : Game τ) (failure : Failure) : Prop :=
  ∀ name, failure.Lacks name → ∃ g, g₀.Changes given g ∧ (g.Misses name ∨ g.program.Calls)

/-- An action follows the changes of a game. -/
def Action.Follows {α : Type} (given : Snapshot τ → Prop) (g₀ : Game τ) (m : Action τ α)
    (g : Game τ) : Prop := Keeps (g₀.Changes given) (g₀.Fails given) m g

/-! ## 3. Small actions -/

theorem Ordinal.mem_of_get? {α : Type} {pick : Ordinal} {xs : List α} {x : α}
    (h : pick.get? xs = some x) : x ∈ xs := by
  cases pick with
  | nth n => exact List.mem_of_getElem? h
  | stray value => cases h

omit [Clock τ] in
/-- In a game that is running no menu is open. -/
theorem Game.closed_of_running (running : g.status = .running) :
    g.menu = none ∧ Status.ofState g.state g.program.commands.size = .running := by
  unfold status at running
  split at running
  · next menu _ => cases kind : menu.kind <;> simp [Status.ofMenu, kind] at running
  · next closed => exact ⟨closed, running⟩

/-- The game in which the next command is done: the one behind it is next then. -/
def Game.ready (g : Game τ) : Game τ := { g with state := { g.state with index := g.state.index.next } }

/-- A step does the next command, if there is one. -/
theorem Action.step_eq (g : Game τ) :
    step g =
      match g.program.commandAt? g.state.index with
      | some command => execute command g.ready
      | none => .error .noCommand g.ready := by
  show (match g.program.commandAt? g.state.index with
    | some command => execute command
    | none => throw .noCommand : Action τ Unit) g.ready = _
  cases g.program.commandAt? g.state.index <;> rfl

/-- What closing the video of a state asks for. -/
def State.closing (s : State τ) : List AssetRequest :=
  s.video.toList.map fun video => .closeVideo video.playback.path video.playback.opening

/-- What a state that is taken up again asks for: its music and its echo. -/
def State.replay (s : State τ) : List AssetRequest :=
  (s.music.toList.map fun music => .playMusic music.path music.loop) ++
    (s.echo.filter (!·.isEmpty)).toList.map .playEcho

omit [Clock τ] in
theorem State.replay_other (s : State τ) : ∀ r ∈ s.replay, r.isVideo = false := by
  intro r mem
  rcases List.mem_append.mp mem with music | echo
  · obtain ⟨music, -, rfl⟩ := List.mem_map.mp music
    rfl
  · obtain ⟨path, -, rfl⟩ := List.mem_map.mp echo
    rfl

namespace Action

/-- From an open menu the action that begins a new game begins the story again. -/
theorem takeMenuAction_newGame {menu : Menu} (opened : g.menu = some menu) :
    takeMenuAction "new_game" g = restart g := by
  have means : MenuAction.ofText "new_game" = .newGame := by decide
  have read : (get : Action τ (Game τ)) g = .ok g g := rfl
  rw [takeMenuAction, run_bind_ok read, opened]
  simp only [means]

omit [Clock τ] in
/-- Closing the video takes it from the stage and asks for nothing else. -/
theorem closeVideo_eq (g : Game τ) :
    closeVideo g = .ok () { g with
      requests := g.requests ++ g.state.closing.toArray
      state := { g.state with video := none } } := by
  have read : state g = .ok g.state g := rfl
  rw [closeVideo, run_bind_ok read, State.closing]
  cases playing : g.state.video with
  | none =>
    simp only [Option.toList_none, List.map_nil, Array.append_empty]
    rw [← playing]
    rfl
  | some video => rfl

end Action

namespace Game.Changes

open VisualNovel.Action (Follows)

theorem andThen (h : g₀.Changes given g) {t : Game τ} (change : Game.Change given g t) :
    g₀.Changes given t := h.tail change

theorem state (h : g₀.Changes given g) {s : State τ} (change : g.state.Change g.program s) :
    g₀.Changes given { g with state := s } := h.tail (.state change)

theorem asked (h : g₀.Changes given g) (r : AssetRequest) (other : r.isVideo = false) :
    g₀.Changes given { g with requests := g.requests.push r } := h.tail (.request other)

theorem around (h : g₀.Changes given g) {menu : Option Menu} {quitRequested : Bool} {now : τ}
    {voicePlaying : Bool} {logs : Array LogRecord} :
    g₀.Changes given { g with menu, quitRequested, now, voicePlaying, logs } :=
  h.tail .around

/-- Requests that are not about videos. -/
theorem requests (h : g₀.Changes given g) {asked : List AssetRequest}
    (others : ∀ r ∈ asked, r.isVideo = false) :
    g₀.Changes given { g with requests := g.requests ++ asked.toArray } := by
  induction asked generalizing g with
  | nil => simpa using h
  | cons r rest ih =>
    rw [List.forall_mem_cons] at others
    simpa using ih (h.asked r others.1) others.2

theorem change (h : g₀.Changes given g) {f : State τ → State τ}
    (change : g.state.Change g.program (f g.state)) :
    Follows given g₀ (Action.change f) g := h.state change

theorem log (h : g₀.Changes given g) (level : LogLevel) (message : Text) :
    Follows given g₀ (Action.log level message) g := h.around

theorem logAll (h : g₀.Changes given g) (records : List LogRecord) :
    Follows given g₀ (Action.logAll records) g := h.around

theorem request (h : g₀.Changes given g) {r : AssetRequest} (other : r.isVideo = false) :
    Follows given g₀ (Action.request r) g := h.asked r other

theorem setMenu (h : g₀.Changes given g) (menu : Option Menu) :
    Follows given g₀ (Action.setMenu menu) g := h.around

/-- A fault in play that is not about a label. -/
theorem fail {α : Type} (h : g₀.Changes given g) {problem : PlayProblem}
    (other : ∀ name, problem ≠ .unknownLabel name) :
    Follows given g₀ (Action.fail problem : Action τ α) g := by
  refine ⟨h, fun name same => ?_⟩
  cases same
  exact absurd rfl (other name)

/-- The game after its video was closed, if it had one. -/
theorem closed (h : g₀.Changes given g) :
    g₀.Changes given { g with
      requests := g.requests ++ g.state.closing.toArray
      state := { g.state with video := none } } := by
  rw [State.closing]
  cases playing : g.state.video with
  | none =>
    have same : ({ g with state := { g.state with video := none } } : Game τ) = g := by
      rw [← playing]
    simpa [same] using h
  | some video =>
    have gone := h.andThen (.closeVideo playing)
    simpa using gone

/-- The game after a video was opened that is looked at once. -/
theorem opened (h : g₀.Changes given g) (dark : g.state.video = none) {video : Video τ}
    (numbered : video.playback.opening = g.requests.size) :
    g₀.Changes given { g with
      requests := (g.requests.push (.openVideo video.playback.path video.playback.loop)).push
        (.lookVideo video.playback.opening)
      state := { g.state with video := some video } } :=
  h.tail (.openVideo dark numbered)

theorem closeVideo (h : g₀.Changes given g) : Follows given g₀ Action.closeVideo g :=
  Action.keeps_of_ok (Action.closeVideo_eq g) h.closed

theorem toggleInventory (h : g₀.Changes given g) :
    Follows given g₀ Action.toggleInventory g := h.change .plain

/-- A jump goes to its label, or fails in the one way it can. -/
theorem jump {F : Failure → Prop} (h : g₀.Changes given g) (target : Text)
    (missing : g.program.labels.get? (stripRootMark target) = none →
      stripRootMark target ≠ inventoryToggle →
      F (.play (.unknownLabel (stripRootMark target)))) :
    Action.Keeps (g₀.Changes given) F (Action.jump target) g := by
  unfold Action.jump
  simp only
  rw [Action.keeps_get]
  refine .ite (fun _ => .ite (fun _ => h.state .plain) fun _ => h) fun other => ?_
  split
  · next found => exact h.state (.goto found)
  · next none => exact ⟨h.around, missing none other⟩

/-- A jump to a target that the game had, from a state that it came to. -/
theorem jumpTo (h : g₀.Changes given g) {target : Text} {s : State τ}
    (after : g₀.Changes given { g with state := s })
    (held : g.state.Holds target ∨ ∃ c ∈ g.program.commands, target ∈ c.targets) :
    Follows given g₀ (Action.jump target) { g with state := s } := by
  refine after.jump target fun none other name same => ?_
  cases same
  exact ⟨g, h, .inl ⟨none, other, target, rfl, held⟩⟩

theorem choose (h : g₀.Changes given g) (pick : Ordinal) :
    Follows given g₀ (Action.choose pick) g := by
  unfold Action.choose Follows
  rw [Action.keeps_state]
  split
  · next choice pending =>
    split
    · exact h.fail nofun
    · next option found =>
      rw [Action.keeps_change_bind]
      exact h.jumpTo (h.state .choose) (.inl (.option pending (Ordinal.mem_of_get? found)))
  · refine .ite (fun _ => ?_) fun _ => h.fail nofun
    split
    · exact h.fail nofun
    · next point found =>
      rw [Action.keeps_change_bind]
      refine h.jumpTo (h.state .closeMap) (.inl (.point ?_))
      exact Array.mem_toList_iff.mp (Ordinal.mem_of_get? found)

/-- Setting a variable is seen by its meter. -/
theorem setVariable (h : g₀.Changes given g) (name : Text) (value : Value) :
    g₀.Changes given { g with state := g.state.setVariable name value } := by
  exact (h.state (.setVariable name value)).state (.refreshMeter name)

theorem submit (h : g₀.Changes given g) (text : Option Text) :
    Follows given g₀ (Action.submit text) g := by
  unfold Action.submit Follows
  rw [Action.keeps_state]
  split
  · exact h.fail nofun
  · exact (h.setVariable _ _).state .answer

theorem advance (h : g₀.Changes given g) : Follows given g₀ Action.advance g := by
  unfold Action.advance State.dismiss Follows
  rw [Action.keeps_state]
  split
  next dismissed after same =>
  have made : g₀.Changes given { g with state := after } := by
    split at same
    · cases same
      exact h.state .readMessage
    · split at same
      · cases same
        exact h.state .silence
      · cases same
        exact h
  exact made

theorem scroll (h : g₀.Changes given g) (delta : Float) :
    Follows given g₀ (Action.scroll delta) g :=
  h.state (s := g.state.scroll _ delta) .plain

theorem openPauseMenu (h : g₀.Changes given g) : Follows given g₀ Action.openPauseMenu g := by
  unfold Action.openPauseMenu Follows
  rw [Action.keeps_get]
  refine .ite (fun _ => h) fun _ => ?_
  exact h.around

theorem restart (h : g₀.Changes given g) : Follows given g₀ Action.restart g := by
  rw [Action.restart, Follows, Action.keeps_bind_ok (Action.closeVideo_eq g)]
  exact (h.closed.andThen (.restart rfl)).around

end Game.Changes

/-! ## 4. Saving and loading -/

omit [Clock τ] in
/-- Only a fault of a script stands for an endless loop. -/
theorem Failure.exists_of_isEndless {e : Failure} (endless : e.isEndless = true) :
    ∃ fault, e = .fault fault ∧ fault.cause = .script .stalled := by
  cases e with
  | fault fault => exact ⟨fault, rfl, of_decide_eq_true endless⟩
  | file | noCommand => cases endless

omit [Clock τ] in
theorem Failure.not_lacks_of_isEndless {e : Failure} (endless : e.isEndless = true) (name : Text) :
    ¬ e.Lacks name := by
  obtain ⟨fault, rfl, stalled⟩ := exists_of_isEndless endless
  simp [Lacks, stalled]

/-- What a search for a script leaves: the library may have read the script, and the log has gone on. -/
def Game.Searched (script : Text) (g t : Game τ) : Prop :=
  ∃ library logs, t = { g with library, logs } ∧
    (library = g.library ∨ library = (g.library.load g.files script).library)

namespace Action

omit [Clock τ] in
/-- A search for the program of a script finds what is at hand. It fails only where it does not come
to an end. -/
theorem ends_savedProgram (g : Game τ) (script : Text) :
    Ends (savedProgram script) g
      (fun found t => g.Searched script t ∧ ∀ program, found = some program → t.Offers script program)
      fun e t => g.Searched script t ∧ e.isEndless = true := by
  rw [savedProgram, ends_bind, ends_get]
  refine .ite (fun same => ?_) fun other => ?_
  · refine ⟨⟨_, _, rfl, .inl rfl⟩, ?_⟩
    rintro program ⟨⟩
    exact (if_pos same).mpr rfl
  · simp only [logAll, ends_bind, ends_set, ends_modify]
    split
    · next edition found =>
      refine ⟨⟨_, _, rfl, .inr rfl⟩, ?_⟩
      rintro program ⟨⟩
      exact (if_neg other).mpr ⟨edition, Library.shelved_of_load found, rfl⟩
    · next fault _ =>
      unfold passOn
      split
      · next endless => exact ⟨⟨_, _, rfl, .inr rfl⟩, endless⟩
      · exact ⟨⟨_, _, rfl, .inr rfl⟩, fun _ none => by cases none⟩

omit [Clock τ] in
/-- What follows a search for a script begins with a library that may have read the script. -/
theorem keeps_savedProgram_bind {α : Type} {P : Game τ → Prop} {F : Failure → Prop} {script : Text}
    {f : Option Program → Action τ α} (searched : ∀ t, g.Searched script t → P t)
    (endless : ∀ e : Failure, e.isEndless = true → F e)
    (rest : ∀ found t, g.Searched script t →
      (∀ program, found = some program → t.Offers script program) → Keeps P F (f found) t) :
    Keeps P F (savedProgram script >>= f) g :=
  Ends.bind (Ends.mono (ends_savedProgram g script) (fun _ _ => id)
    fun e t ⟨left, given⟩ => ⟨searched t left, endless e given⟩)
    fun found t ⟨left, offered⟩ => rest found t left offered

/-- A game that goes on from a snapshot has its program and its state. -/
theorem resumeFrom_eq (g : Game τ) (data : Snapshot τ) (program : Program) :
    resumeFrom data program g = .ok () { g with
      program
      state := (data.toState g.now).introduceAll program
      requests := g.requests ++ g.state.closing.toArray ++
        ((data.toState g.now).introduceAll program).replay.toArray } := by
  rw [resumeFrom, run_bind_ok (closeVideo_eq g)]
  have placed : (modify fun game : Game τ =>
        { game with program, state := (data.toState game.now).introduceAll program } :
        Action τ Unit) { g with
          requests := g.requests ++ g.state.closing.toArray
          state := { g.state with video := none } } =
      .ok () { g with
        program
        state := (data.toState g.now).introduceAll program
        requests := g.requests ++ g.state.closing.toArray } := rfl
  rw [run_bind_ok placed]
  generalize (data.toState g.now).introduceAll program = s
  generalize g.requests ++ g.state.closing.toArray = asked
  have looked : (state : Action τ (State τ)) { g with program, state := s, requests := asked } =
      .ok s { g with program, state := s, requests := asked } := rfl
  rw [run_bind_ok looked, State.replay]
  cases s.music with
  | none =>
    cases s.echo with
    | none => simp
    | some echo =>
      cases echo with
      | nil => simp
      | cons => simp; rfl
  | some music =>
    cases s.echo with
    | none => simp; rfl
    | some echo => cases echo <;> (simp; rfl)

end Action

namespace Game.Changes

open VisualNovel.Action (Follows)

/-- A game goes on from a snapshot, if it can. -/
theorem restore (h : g₀.Changes given g) {data : Snapshot τ}
    (source : given data ∨ g.files.Stores data) : Follows given g₀ (Action.restore data) g := by
  unfold Action.restore Follows
  rw [Action.keeps_get]
  have ready : ∀ t, g.Searched (Path.fromProject g.setup.root data.script) t →
      g₀.Changes given t := by
    rintro t ⟨library, logs, rfl, rfl | rfl⟩
    · exact h.around
    · exact Changes.around (h.tail (.load _))
  refine Action.keeps_savedProgram_bind ready
    (fun e endless name lacks => absurd lacks (Failure.not_lacks_of_isEndless endless name))
    fun found t searched offered => ?_
  have logged := ready t searched
  cases found with
  | none => exact logged
  | some program =>
    refine .ite (fun _ => logged.around) fun inside => ?_
    rw [Action.keeps_bind_ok (Action.resumeFrom_eq t data program)]
    obtain ⟨library, logs, rfl, -⟩ := searched
    have gone := logged.closed.andThen
      (.resume source (offered program rfl) (by simpa using inside) rfl)
    exact gone.requests (State.replay_other _)

theorem saveTo (h : g₀.Changes given g) (path : Text) :
    Follows given g₀ (Action.saveTo path) g := by
  have written : g₀.Changes given { g with
      files := ((g.snapshot.mapTime Clock.toMillis).save g.files path).files } := h.tail (.save path)
  have taken : Action.snapshot g = .ok g.snapshot g := rfl
  unfold Action.saveTo Follows
  rw [Action.keeps_bind_ok taken, Action.keeps_get, Action.keeps_set_bind]
  refine Action.Keeps.bind (written.logAll _) fun _ t h => ?_
  split
  · exact ⟨h, nofun⟩
  · exact h
  · exact h.around

theorem loadFrom (h : g₀.Changes given g) (path : Text) :
    Follows given g₀ (Action.loadFrom path) g := by
  unfold Action.loadFrom Follows
  rw [Action.keeps_get]
  split
  next data? logs found =>
  have logged : g₀.Changes given { g with logs := g.logs ++ logs.toArray } := h.around
  rw [Action.logAll, Action.keeps_modify_bind]
  cases data? with
  | none => exact logged
  | some data => exact logged.restore (.inr ⟨path, data, by rw [found], rfl⟩)

theorem save (h : g₀.Changes given g) (slot : Option Text) :
    Follows given g₀ (Action.save slot) g := h.saveTo _

theorem load (h : g₀.Changes given g) (slot : Option Text) :
    Follows given g₀ (Action.load slot) g := h.loadFrom _

/-! ## 5. What the player does -/

theorem takeMenuAction (h : g₀.Changes given g) (name : Text) :
    Follows given g₀ (Action.takeMenuAction name) g := by
  unfold Action.takeMenuAction Follows
  rw [Action.keeps_get]
  split
  · exact h
  · next menu _ =>
    split
    · refine .ite (fun _ => ?_) fun _ => ?_
      · refine (h.save _).bind fun path t h => ?_
        exact .ite (fun _ => h.setMenu _) fun _ => h
      · refine (h.load _).bind fun done t h => ?_
        exact .ite (fun _ => h.setMenu _) fun _ => h
    · exact h.restart
    · refine (h.load _).bind fun done t h => ?_
      exact .ite (fun _ => h.setMenu _) fun _ => h.log _ _
    · exact h.setMenu _
    · exact h.setMenu _
    · exact h.setMenu _
    · exact .ite (fun _ => h.setMenu _) fun _ => h
    · exact h.around
    · refine (h.save _).bind fun path t h => ?_
      exact .ite (fun _ => h.setMenu _) fun _ => h
    · refine (h.load _).bind fun done t h => ?_
      exact .ite (fun _ => h.setMenu _) fun _ => h
    · exact h.log _ _

theorem takeMenuEntry (h : g₀.Changes given g) (menu : Menu) (pick : Ordinal) :
    Follows given g₀ (Action.takeMenuEntry menu pick) g := by
  unfold Action.takeMenuEntry Follows
  rw [Action.keeps_get]
  split
  · exact h.takeMenuAction _
  · exact h

theorem menuEvent (h : g₀.Changes given g) (menu : Menu) (event : Event) :
    Follows given g₀ (Action.menuEvent menu event) g := by
  unfold Action.menuEvent Follows
  rw [Action.keeps_get]
  simp only
  split
  · exact .ite (fun _ => (h.setMenu _).bind fun _ t h => h.takeMenuEntry _ _) fun _ => h
  · exact h.setMenu _
  · exact h.setMenu _
  · exact h.takeMenuEntry _ _
  · refine .ite (fun _ => h.takeMenuAction _) fun _ => .ite (fun _ => h.setMenu _) fun _ => h
  · refine .ite (fun _ => h.takeMenuAction _) fun _ => .ite (fun _ => h.setMenu _) fun _ => h
  · exact h

theorem mapEvent (h : g₀.Changes given g) (event : Event) :
    Follows given g₀ (Action.mapEvent event) g := by
  unfold Action.mapEvent Follows
  rw [Action.keeps_get]
  split
  · exact h.change .closeMap
  · exact .ite (fun _ => h.choose _) fun _ => h
  · split
    · next point found =>
      rw [Action.keeps_change_bind]
      exact h.jumpTo (h.state .closeMap) (.inl (.point (Array.mem_of_find?_eq_some found)))
    · exact h
  · exact h

theorem choiceEvent (h : g₀.Changes given g) {choice : Choice τ}
    (pending : g.state.choice = some choice) (event : Event) :
    Follows given g₀ (Action.choiceEvent choice event) g := by
  unfold Action.choiceEvent Action.moveChoice Follows
  split
  · exact .ite (fun _ => h.choose _) fun _ => h.log _ _
  · exact h.change (.turn pending (.inl rfl))
  · exact h.change (.turn pending (.inr rfl))
  · exact h.choose _
  · exact h

theorem questionEvent (h : g₀.Changes given g) {question : Question}
    (pending : g.state.question = some question) (event : Event) :
    Follows given g₀ (Action.questionEvent question event) g := by
  unfold Action.questionEvent Follows
  simp only
  split
  · exact h.change (.edit pending _)
  · exact h.change (.edit pending _)
  · exact h.submit _
  · exact h

theorem phoneEvent (h : g₀.Changes given g) (event : Event) :
    Follows given g₀ (Action.phoneEvent event) g := by
  unfold Action.phoneEvent Follows
  split
  · exact h.change .readMessage
  · exact h.change .readMessage
  · exact h.change .readMessage
  · exact h

/-- A click on what the state holds. -/
theorem follow (h : g₀.Changes given g) {target : Text} (held : g.state.Holds target) :
    Follows given g₀ (Action.follow target) g := by
  unfold Action.follow Follows
  simp only
  split
  · rw [Action.keeps_change_bind]
    have quiet : g₀.Changes given { g with state := { g.state with dialogue := none } } :=
      h.state .silence
    exact h.jumpTo (quiet.state .release) (.inl held)
  · exact h.jumpTo h (.inl held)

theorem click (h : g₀.Changes given g) (point : Point) :
    Follows given g₀ (Action.click point) g := by
  unfold Action.click Follows
  rw [Action.keeps_get]
  split
  · next button found =>
    refine h.follow (.button ?_)
    unfold Action.buttonAt? at found
    split at found
    · exact List.mem_of_find?_eq_some found
    · cases found
  · refine .ite (fun _ => h.change .silence) fun _ => ?_
    split
    · next hotspot found => exact h.follow (.hotspot (List.mem_of_find?_eq_some found))
    · exact h

theorem storyKey (h : g₀.Changes given g) (key : Key) :
    Follows given g₀ (Action.storyKey key) g := by
  unfold Action.storyKey Follows
  split
  · exact h.openPauseMenu.bind fun _ t h => h
  · exact (h.save _).bind fun _ t h => h
  · exact (h.load _).bind fun _ t h => h
  · rw [Action.keeps_get]
    exact .ite (fun _ => h.toggleInventory) fun _ => h
  · exact (h.scroll _).bind fun _ t h => h
  · exact (h.scroll _).bind fun _ t h => h
  · exact h.change .plain
  · exact h.change .silence
  · exact h.change .silence
  · exact h
  · exact h
  · exact h

/-- One event. -/
theorem handle (h : g₀.Changes given g) (event : Event) :
    Follows given g₀ (Action.handle event) g := by
  unfold Action.handle Follows
  rw [Action.keeps_get]
  split
  · exact h.menuEvent _ _
  · refine .ite (fun _ => h.mapEvent _) fun _ => ?_
    split
    · next pending => exact h.choiceEvent pending _
    · next pending => exact h.questionEvent pending _
    · refine .ite (fun _ => h.phoneEvent _) fun _ => ?_
      split
      · exact h.click _
      · exact h.storyKey _
      · exact h

/-! ## 6. Commands -/

theorem showSprite (h : g₀.Changes given g) {spec : SpriteSpec}
    (mem : .show spec ∈ g.program.commands) : Follows given g₀ (Action.showSprite spec) g := by
  have named : g.program.Names spec.name := ⟨_, mem, rfl⟩
  unfold Action.showSprite Follows
  rw [Action.keeps_get]
  simp only
  split
  · refine (h.asked _ rfl).state (.placeSprite ?_ rfl _ _)
    exact named
  · refine (h.asked _ rfl).state (.placeSprite ?_ rfl _ _)
    exact named

theorem showCharacter (h : g₀.Changes given g) {spec : CharacterShow}
    (mem : .showCharacter spec ∈ g.program.commands) :
    Follows given g₀ (Action.showCharacter spec) g := by
  have named : g.program.Names spec.ident := ⟨_, mem, rfl⟩
  unfold Action.showCharacter Follows
  rw [Action.keeps_get]
  split
  · exact h.log _ _
  · split
    · exact h.log _ _
    · refine (h.asked _ rfl).state (.placeSprite ?_ rfl _ _)
      exact named

theorem hideSprite (h : g₀.Changes given g) (name : Text) (spec : TransitionSpec) :
    Follows given g₀ (Action.hideSprite name spec) g := by
  unfold Action.hideSprite Follows
  rw [Action.keeps_get]
  exact .ite (fun _ => h.change (.hideSprite ..)) fun _ => h.log _ _

theorem animate (h : g₀.Changes given g) {name : Text} {goal : AnimationGoal} {seconds : Float}
    {ease : Ease} (mem : .animate name goal seconds ease ∈ g.program.commands) :
    Follows given g₀ (Action.animate name goal seconds ease) g := by
  unfold Action.animate Follows
  rw [Action.keeps_get]
  split
  · exact h.log _ _
  · next found => exact h.change (.animate found mem _)

theorem clearCache (h : g₀.Changes given g) (target : CacheTarget) :
    Follows given g₀ (Action.clearCache target) g := by
  unfold Action.clearCache Follows
  split
  · exact h.request rfl
  · exact h.tail .clearLibrary
  · rw [Action.keeps_get]
    simp only
    rw [Action.keeps_modify_bind]
    have evicted : ∀ path, g₀.Changes given { g with library := g.library.evict path } :=
      fun path => h.tail (.evict path)
    refine .ite (fun _ => ?_) fun _ => evicted _
    exact ((evicted _).state .clearSprites).state .silence
  · rw [Action.keeps_modify_bind, Action.keeps_change_bind]
    have cleared : g₀.Changes given { g with library := g.library.clear } := h.tail .clearLibrary
    have empty := (cleared.state .clearSprites).state .clearHotspots
    refine empty.closeVideo.bind fun _ t h => ?_
    have quiet : g₀.Changes given { t with
        state := { t.state with notification := none, background := {} } } :=
      h.state .plain
    exact ((quiet.state .lookAhead).state .silence).state .release

theorem playVideo (h : g₀.Changes given g) (path : Text) (loop : Bool) (fit : VideoFit) :
    Follows given g₀ (Action.playVideo path loop fit) g := by
  rw [Action.playVideo, Follows, Action.keeps_bind_ok (Action.closeVideo_eq g), Action.keeps_get]
  split
  · exact h.closed.log _ _
  · next player _ =>
    -- The request, the look and the new state are one change.
    have opened {video : Video τ}
        (numbered : video.playback.opening = (g.requests ++ g.state.closing.toArray).size) :=
      h.closed.opened rfl numbered
    exact .ite (fun _ => (opened rfl).closeVideo) fun _ => opened rfl

theorem updateVideo (h : g₀.Changes given g) : Follows given g₀ Action.updateVideo g := by
  unfold Action.updateVideo Follows
  rw [Action.keeps_get]
  split
  · next video player playing _ =>
    have looked : ∀ picture, g₀.Changes given { g with
        requests := g.requests.push (.lookVideo video.playback.opening)
        state := { g.state with
          video := some
            { video with playback := (player.look video.playback g.now).2, picture } } } :=
      fun picture => h.tail (.lookVideo playing rfl rfl rfl)
    exact Action.Keeps.ite (fun _ => (looked _).closeVideo) fun _ => looked _
  · exact h

/-- A call leads to a label of another script, or astray. -/
theorem callScript (h : g₀.Changes given g) (free : g.state.Free) {path resolved label : Text}
    (mem : .call path resolved label ∈ g.program.commands) :
    Follows given g₀ (Action.callScript resolved label) g := by
  have fails : ∀ failure, g₀.Fails given failure :=
    fun _ _ _ => ⟨g, h, .inr ⟨path, resolved, label, mem⟩⟩
  have loaded : g₀.Changes given
      { g with library := (g.library.load g.files resolved).library } := h.tail (.load resolved)
  unfold Action.callScript Follows
  rw [Action.keeps_get]
  simp only
  rw [Action.keeps_set_bind, Action.logAll, Action.keeps_modify_bind]
  cases result : (g.library.load g.files resolved).result with
  | error fault => exact ⟨loaded.around, fails _⟩
  | ok edition =>
    have shelved := Library.shelved_of_load result
    simp only [Action.keeps_modify_bind, Action.keeps_change_bind]
    unfold Action.jump
    simp only
    rw [Action.keeps_get]
    refine .ite (fun reserved => ?_) fun other => ?_
    · have astray : g₀.Changes given { g with
          library := (g.library.load g.files resolved).library
          program := edition.program
          state := { g.state.introduceAll edition.program with loading := none } } :=
        loaded.tail (.stray mem free shelved (.inl reserved))
      exact .ite (fun _ => astray.around.toggleInventory) fun _ => astray.around
    · split
      · next index found =>
        have arrived : g₀.Changes given { g with
            library := (g.library.load g.files resolved).library
            program := edition.program
            state :=
              { g.state.introduceAll edition.program with loading := none, index := .nth index } } :=
          loaded.tail (.call mem free shelved found)
        exact arrived.around
      · next missing =>
        have astray : g₀.Changes given { g with
            library := (g.library.load g.files resolved).library
            program := edition.program
            state := { g.state.introduceAll edition.program with loading := none } } :=
          loaded.tail (.stray mem free shelved (.inr missing))
        exact ⟨astray.around, fails _⟩

theorem showMap (h : g₀.Changes given g) (free : g.state.Free)
    (inside : g.state.Inside g.program.commands.size) (image : Text) :
    Follows given g₀ (Action.showMap image) g := by
  unfold Action.showMap Follows
  rw [Action.keeps_get]
  exact h.change (.showMap free inside image rfl)

/-- One command of the program, in a game that nothing keeps from going on. -/
theorem execute (h : g₀.Changes given g) (free : g.state.Free)
    (inside : g.state.Inside g.program.commands.size) {c : Command} (mem : c ∈ g.program.commands) :
    Follows given g₀ (Action.execute c) g := by
  have jumps : ∀ target ∈ c.targets, Follows given g₀ (Action.jump target) g :=
    fun target named => h.jumpTo h (.inr ⟨c, mem, named⟩)
  unfold Action.execute Follows
  rw [Action.keeps_get]
  simp only
  cases c with
  | label name => exact h
  | say speaker text => exact h.change (.say free speaker _)
  | jump target => exact jumps target List.mem_cons_self
  | choice prompt options timeout timeoutDefault => exact h.change (.offer free inside mem ..)
  | scene kind value transition floating =>
    have painted : ∀ {t background}, g₀.Changes given t → g₀.Changes given
        { t with state := { t.state.clearSprites with background } } :=
      fun h => (h.state .clearSprites).state .plain
    exact .ite (fun _ => painted (h.asked _ rfl)) fun _ => painted h
  | «show» sprite => exact h.showSprite mem
  | showCharacter appearance => exact h.showCharacter mem
  | hide name transition => exact h.hideSprite name transition
  | camera camera => exact h.change (.lookAt mem)
  | animate name goal seconds ease => exact h.animate mem
  | stopAnimation name =>
    cases name with
    | none => exact h.change .stopAll
    | some name => exact h.change (.stopSprite name)
  | music channel path loop =>
    exact Action.Keeps.bind (h.change .plain) fun _ t h => h.request rfl
  | sound channel path => exact h.request rfl
  | echo path => exact Action.Keeps.bind (h.change .plain) fun _ t h => h.request rfl
  | stopEcho => exact Action.Keeps.bind (h.change .plain) fun _ t h => h.request rfl
  | voice character path => exact h.request rfl
  | mute target =>
    refine Action.Keeps.bind (h.request rfl) fun _ t h => ?_
    have noEcho : ∀ t, g₀.Changes given t → Follows given g₀
        (if (decide (target = Text.ofString "all") || decide (target = Text.ofString "echo")) = true then
          Action.change fun s => { s with echo := none } else pure ()) t :=
      fun t h => .ite (fun _ => h.change .plain) fun _ => h
    refine .ite (fun _ => ?_) fun _ => noEcho t h
    exact Action.Keeps.bind (h.change .plain) fun _ u h => noEcho u h
  | preload kind path => exact h.request (by split <;> rfl)
  | clearCache target => exact h.clearCache target
  | pin kind path => exact h.request (by split <;> rfl)
  | unpin kind path => exact h.request (by split <;> rfl)
  | collect =>
    unfold Action.collect
    rw [Action.keeps_get]
    exact (h.request rfl).bind fun _ t h => h.request rfl
  | wait seconds => exact .ite (fun _ => h.change (.hold free _)) fun _ => h
  | waitVoice => exact .ite (fun _ => h.change (.hold free _)) fun _ => h
  | waitVideo => exact .ite (fun _ => h.change (.hold free _)) fun _ => h
  | notify text seconds => exact h.change .plain
  | blend style seconds => exact h.change .plain
  | save slot => exact (h.save slot).bind fun _ t h => h
  | load slot => exact (h.load slot).bind fun _ t h => h
  | setVariable name value =>
    simp only
    split
    · exact h.setVariable _ _
    · exact h.log _ _
  | addVariable name amount => exact h.setVariable _ _
  | jumpIf name op value target => exact .ite (fun _ => jumps target List.mem_cons_self) fun _ => h
  | call path resolved label => exact h.callScript free mem
  | beginLoading text => exact h.change .plain
  | endLoading => exact h.change .plain
  | define character => exact h.change (.define mem free)
  | input name prompt default => exact h.change (.ask free inside _)
  | openPhone contact => exact h.change (.openPhone free contact)
  | phoneMessage side text =>
    have warned : ∀ logs, g₀.Changes given { g with logs } := fun _ => h.around
    have rung : ∀ logs side text, g₀.Changes given { g with
        logs
        state := { g.state with
          phone :=
            { g.state.phone with
              messages := g.state.phone.messages.push { side, text }, unread := true } } } :=
      fun logs side text => (warned logs).state (.message free side text)
    exact .ite (fun _ => rung _ _ _) fun _ => rung _ _ _
  | closePhone => exact h.change (.closePhone free)
  | showMeter name label min max color => exact h.change (.setMeter ⟨_, mem, rfl⟩ _)
  | hideMeter name => exact h.change (.eraseMeter name)
  | updateMeter name => exact h.change (.refreshMeter name)
  | clearMeters => exact h.change .clearMeters
  | addItem id name description icon amount =>
    refine Action.Keeps.bind (h.change (.addItem ⟨_, mem, rfl⟩ _)) fun _ t h => ?_
    exact (h.scroll _).bind fun _ t h => h
  | removeItem id amount =>
    refine Action.Keeps.bind (h.change (.takeItem id amount)) fun _ t h => ?_
    exact (h.scroll _).bind fun _ t h => h
  | clearItems =>
    refine Action.Keeps.bind (h.change .clearItems) fun _ t h => ?_
    exact (h.scroll _).bind fun _ t h => h
  | showMap image => exact h.showMap free inside image
  | mapPoint title pos corners target => exact h.change (.mapPoint mem)
  | hideMap => exact h.change .closeMap
  | playVideo path loop fit => exact h.playVideo path loop fit
  | stopVideo => exact h.closeVideo
  | hotspot name shape target => exact h.change (.hotspot mem)
  | removeHotspot name =>
    cases name with
    | none => exact h.change .clearHotspots
    | some name => exact h.change (.eraseHotspot name)
  | debugHotspots enabled => exact h.change .plain
  | button button => exact .ite (fun _ => h.change (.button mem)) fun _ => h.log _ _
  | removeButton name =>
    cases name with
    | none => exact h.change .clearButtons
    | some name => exact h.change (.eraseButton name)

/-! ## 7. Runs and frames -/

/-- The next command of a story that is running. -/
theorem step (h : g₀.Changes given g)
    (running : Status.ofState g.state g.program.commands.size = .running) :
    Follows given g₀ Action.step g := by
  have free := (State.free_of_running running).1
  have moved : g₀.Changes given { g with state := { g.state with index := g.state.index.next } } :=
    h.state (.next running)
  unfold Action.step Follows
  rw [Action.keeps_get, Action.keeps_change_bind]
  split
  · next c found =>
    unfold Program.commandAt? at found
    split at found
    · next n place =>
      have inside := (Array.getElem?_eq_some_iff.mp found).1
      refine moved.execute { free with } ⟨n + 1, inside, ?_⟩ (Array.mem_of_getElem? found)
      rw [place]
      rfl
    · cases found
  · exact ⟨moved, nofun⟩

/-- A run is a chain of commands. -/
theorem runAtMost (h : g₀.Changes given g) (limit : Nat) :
    Follows given g₀ (Action.runAtMost limit) g := by
  induction limit generalizing g with
  | zero => exact h.fail nofun
  | succ limit ih =>
    have read : Action.status g = .ok g.status g := rfl
    rw [Action.runAtMost, Follows, Action.keeps_bind_ok read]
    refine .ite (fun _ => h) fun running => ?_
    exact Action.Keeps.bind (h.step (closed_of_running (Decidable.not_not.mp running)).2)
      fun _ t h => ih h

theorem run (h : g₀.Changes given g) : Follows given g₀ Action.run g := h.runAtMost _

theorem checkTimeout (h : g₀.Changes given g) : Follows given g₀ Action.checkTimeout g := by
  unfold Action.checkTimeout Follows
  rw [Action.keeps_get]
  split
  · split
    · exact h
    · refine .ite (fun _ => h) fun _ => ?_
      exact Action.Keeps.bind (h.log _ _) fun _ t h => h.choose _
  · exact h

theorem removeSprites (h : g₀.Changes given g) (gone : List Text) :
    g₀.Changes given { g with state := gone.foldl State.removeSprite g.state } := by
  induction gone generalizing g with
  | nil => exact h
  | cons id rest ih => exact ih (h.state (.removeSprite id))

/-- What ends by itself. -/
theorem expire (h : g₀.Changes given g) (now : τ) (voicePlaying : Bool) :
    g₀.Changes given { g with state := g.state.expire now voicePlaying } := by
  unfold State.expire
  extract_lets wait notification blend gone
  have plain : g₀.Changes given { g with state := { g.state with notification, blend } } :=
    h.state .plain
  have ended : wait = g.state.wait ∨ wait = none := by
    unfold wait
    split
    · split
      · exact .inr rfl
      · exact .inl rfl
    · split
      · exact .inl rfl
      · exact .inr rfl
    · exact .inl rfl
  have released : g₀.Changes given { g with state := { g.state with wait, notification, blend } } := by
    rcases ended with same | none
    · rw [same]
      exact plain
    · rw [none]
      exact plain.state .release
  exact released.removeSprites gone

theorem passTime (h : g₀.Changes given g) : Follows given g₀ Action.passTime g := by
  unfold Action.passTime Follows
  rw [Action.keeps_get, Action.keeps_change_bind]
  have moved := (h.expire g.now g.voicePlaying).state (.moveSprites g.now)
  refine moved.updateVideo.bind fun _ t h => ?_
  rw [Action.keeps_state]
  exact .ite (fun _ => h.change .release) fun _ => h

/-- What the player did is done one after the other. -/
theorem handleAll (h : g₀.Changes given g) (events : List Event) :
    Follows given g₀ (events.forM Action.handle) g := by
  induction events generalizing g with
  | nil => exact h
  | cons event rest ih => exact Action.Keeps.bind (h.handle event) fun _ _ h => ih h

/-- A frame is a chain of changes, and so is the part of it that is done when it fails. -/
theorem frame (h : g₀.Changes given g) (events : List Event) (now : τ) :
    Follows given g₀ (Action.frame events now) g := by
  unfold Action.frame Follows
  rw [Action.keeps_modify_bind]
  have set : g₀.Changes given { g with now } := h.around
  refine (set.handleAll events).bind fun _ t h => ?_
  refine h.checkTimeout.bind fun _ u h => ?_
  rw [Action.keeps_get]
  refine .ite (fun _ => h) fun _ => ?_
  exact h.passTime.bind fun _ v h => h.run

end Game.Changes
end VisualNovel
