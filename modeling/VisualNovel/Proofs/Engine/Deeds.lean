import VisualNovel.Engine.Boundary
import VisualNovel.Proofs.Engine.Change

/-!
What is done in a play.

The runner plays a game in frames, a frame does a run of commands, and a run does one command after
another. `Game.deeds` are the commands of a run, each with the game that it is done in, and
`Game.frameDeeds` and `Game.playDeeds` those of a frame and of a whole play. Statements about a play say
of its deeds what has to hold of each of them, and an induction finds them again one by one: the first
deed of a run (`mem_deeds_first`), those behind it (`mem_deeds_later`), those of the first frame
(`mem_playDeeds_frame`), and those of the frames that follow (`mem_playDeeds_later`).
-/

namespace VisualNovel

variable {τ : Type}

/-! ## 1. The runner in steps -/

/-- What the runner tells after a frame. -/
def State.tells (s : State τ) : Status → List Text
  | .dialogue => (s.dialogue.map (·.line)).toList
  | .phone => s.phone.newest?.toList
  | _ => []

/-- The boundary at which the runner stops. -/
def Boundary.atStatus (texts : List Text) (s : State τ) : Status → Boundary
  | .waitingChoice => .atChoice texts s.choice
  | .mapOverlay => .atMap texts s.map
  | .waitingInput => .atQuestion texts s.question
  | _ => { event := .ended, texts }

namespace Action

variable [Clock τ]

/-- What a frame without events does before its run, and whether there is a run. -/
def settle (now : τ) : Action τ Bool := do
  modify fun game => { game with now }
  checkTimeout
  let game ← get
  if game.menu.isSome || game.state.isOverlaid then return false
  passTime
  return true

theorem frame_nil (now : τ) :
    (frame [] now : Action τ Status) = (do if ← settle now then run else status) := by
  have idle : ([] : List Event).forM handle = (pure () : Action τ Unit) := rfl
  unfold frame settle
  simp only [idle, bind_assoc, pure_bind]
  refine bind_congr fun _ => bind_congr fun _ => ?_
  funext u
  show (if u.menu.isSome || u.state.isOverlaid then pure u.status
      else passTime >>= fun _ => run) u =
    ((if u.menu.isSome || u.state.isOverlaid then pure false
      else passTime >>= fun _ => pure true) >>= fun go : Bool => if go then run else status) u
  split
  · rfl
  · rw [bind_assoc]
    rfl

/-- What the runner does after a frame: the moment of the next one, or nothing at a boundary. -/
def proceed (now : τ) (s : State τ) : Status → Action τ (Option τ)
  | .titleMenu => do
    takeMenuAction "new_game"
    return some now
  | .pauseMenu => do
    setMenu none
    return some now
  | .dialogue | .phone => do
    let _ ← advance
    return some now
  | .waitingTimer => return some (skipTo now s.wait)
  | .waitingVoice | .waitingVideo | .running =>
    return some (Clock.add now (Clock.ofMillis runnerTick))
  | .waitingChoice | .mapOverlay | .waitingInput | .ended => return none

theorem playAtMost_succ (limit : Nat) (now : τ) (said : List Text) :
    playAtMost (limit + 1) now said = do
      let status ← frame [] now
      let s ← state
      match ← proceed now s status with
      | some next => playAtMost limit next (s.tells status ++ said)
      | none => return .atStatus said.reverse s status := by
  rw [playAtMost]
  congr 1
  funext status
  congr 1
  funext s
  cases status <;> simp [proceed, State.tells, Boundary.atStatus]

end Action

/-! ## 2. The deeds of a play -/

/-- A command that is done, with the game that it is done in. -/
structure Deed (τ : Type) where
  game : Game τ
  command : Command

namespace Game

variable [Clock τ]

/-- The commands that a run does, in order. -/
def deeds : Nat → Game τ → List (Deed τ)
  | 0, _ => []
  | limit + 1, g =>
    if g.status ≠ .running then []
    else
      match g.program.commandAt? g.state.index, Action.step g with
      | some command, .ok _ t => ⟨g.ready, command⟩ :: t.deeds limit
      | some command, .error _ _ => [⟨g.ready, command⟩]
      | none, _ => []

/-- The commands that a frame without events does. -/
def frameDeeds (now : τ) (g : Game τ) : List (Deed τ) :=
  match Action.settle now g with
  | .ok true t => t.deeds commandLimit
  | _ => []

/-- The commands that the runner does in at most so many frames. -/
def playDeeds : Nat → τ → Game τ → List (Deed τ)
  | 0, _, _ => []
  | limit + 1, now, g =>
    g.frameDeeds now ++
      match Action.frame [] now g with
      | .ok status t =>
        match Action.proceed now t.state status t with
        | .ok (some next) u => u.playDeeds limit next
        | _ => []
      | .error _ _ => []

end Game

/-- The commands that the runner does up to the next boundary, once an action has been taken. -/
def Action.deedsAfter [Clock τ] {α : Type} (m : Action τ α) (g : Game τ) : List (Deed τ) :=
  match m g with
  | .ok _ t => t.playDeeds runnerLimit t.now
  | .error _ _ => []

namespace Game

variable [Clock τ] {g t u : Game τ} {limit : Nat} {now : τ} {d : Deed τ}

theorem mem_deeds_first {c : Command} (running : g.status = .running)
    (found : g.program.commandAt? g.state.index = some c) : ⟨g.ready, c⟩ ∈ g.deeds (limit + 1) := by
  rw [deeds, if_neg (not_not_intro running), found]
  cases Action.step g <;> exact List.mem_cons_self

theorem mem_deeds_later (running : g.status = .running) (done : Action.step g = .ok () t)
    (mem : d ∈ t.deeds limit) : d ∈ g.deeds (limit + 1) := by
  rw [deeds, if_neg (not_not_intro running)]
  cases found : g.program.commandAt? g.state.index with
  | some c =>
    rw [done]
    exact List.mem_cons_of_mem _ mem
  | none =>
    rw [Action.step_eq, found] at done
    cases done

theorem mem_frameDeeds (settled : Action.settle now g = .ok true t)
    (mem : d ∈ t.deeds commandLimit) : d ∈ g.frameDeeds now := by
  rw [frameDeeds, settled]
  exact mem

theorem mem_playDeeds_frame (mem : d ∈ g.frameDeeds now) : d ∈ g.playDeeds (limit + 1) now :=
  List.mem_append_left _ mem

theorem mem_playDeeds_later {status : Status} {next : τ}
    (framed : Action.frame [] now g = .ok status t)
    (gone : Action.proceed now t.state status t = .ok (some next) u)
    (mem : d ∈ u.playDeeds limit next) : d ∈ g.playDeeds (limit + 1) now := by
  refine List.mem_append_right _ ?_
  rw [framed]
  simp only [gone]
  exact mem

end Game

end VisualNovel
