import VisualNovel.Proofs.Engine.Change

/-!
Sessions: what is done with a game from outside.

An `Operation` is one call of the engine by whoever drives a game. Operations that fail leave a game
behind as well, and a session goes on with it. `Played` are the games that sessions come to, together
with the snapshots taken on the way. An operation is a chain of changes (`Operation.follows`), so a
property that every change keeps holds of all games that are played (`Played.invariant`).
-/

namespace VisualNovel

variable {τ : Type} [Clock τ]

/-! ## 1. Operations -/

/-- The game that an action leaves, whether it succeeds or fails. -/
def Action.left {α : Type} (m : Action τ α) (g : Game τ) : Game τ :=
  match m g with
  | .ok _ t => t
  | .error _ t => t

omit [Clock τ] in
theorem Action.Keeps.left {α : Type} {P : Game τ → Prop} {F : Failure → Prop} {m : Action τ α}
    {g : Game τ} (h : Keeps P F m g) : P (m.left g) := by
  unfold Keeps Ends at h
  unfold Action.left
  cases result : m g with
  | ok a t =>
    rw [result] at h
    exact h
  | error e t =>
    rw [result] at h
    exact h.1

/-- What can be done with a game from outside. -/
inductive Operation (τ : Type) where
  | frame (events : List Event) (now : τ)
  | run
  | jump (target : Text)
  | choose (pick : Ordinal)
  | submit (text : Option Text)
  | advance
  | toggleInventory
  | scroll (delta : Float)
  | openPauseMenu
  | takeMenuAction (name : Text)
  | setMenu (menu : Option Menu)
  | restart
  | save (slot : Option Text)
  | load (slot : Option Text)
  | restore (data : Snapshot τ)
  | setVoice (playing : Bool)
  | close

namespace Operation

/-- The action of an operation. What it gives back is left out. -/
def action : Operation τ → Action τ Unit
  | .frame events now => do let _ ← Action.frame events now
  | .run => do let _ ← Action.run
  | .jump target => Action.jump target
  | .choose pick => Action.choose pick
  | .submit text => Action.submit text
  | .advance => do let _ ← Action.advance
  | .toggleInventory => Action.toggleInventory
  | .scroll delta => do let _ ← Action.scroll delta
  | .openPauseMenu => do let _ ← Action.openPauseMenu
  | .takeMenuAction name => Action.takeMenuAction name
  | .setMenu menu => Action.setMenu menu
  | .restart => Action.restart
  | .save slot => do let _ ← Action.save slot
  | .load slot => do let _ ← Action.load slot
  | .restore data => do let _ ← Action.restore data
  | .setVoice playing => modify fun game => { game with voicePlaying := playing }
  | .close => Action.closeVideo

/-- The game after an operation, whether it succeeds or fails. -/
def after (op : Operation τ) (g : Game τ) : Game τ :=
  match op.action g with
  | .ok _ t => t
  | .error _ t => t

/-- How an operation fails, if it does. -/
def failure? (op : Operation τ) (g : Game τ) : Option Failure :=
  match op.action g with
  | .ok _ _ => none
  | .error e _ => some e

/-- The snapshot that an operation hands over. -/
def Hands (op : Operation τ) (data : Snapshot τ) : Prop := op = .restore data

/-- An operation is a chain of changes. Only a jump from outside fails on its own account for want of
a label. -/
theorem follows (op : Operation τ) (g : Game τ) :
    Action.Keeps (g.Changes op.Hands)
      (fun e => g.Fails op.Hands e ∨ ∃ target, op = .jump target) op.action g := by
  have start : g.Changes op.Hands g := .refl
  have own : ∀ {α : Type} {m : Action τ α}, Action.Follows op.Hands g m g →
      Action.Keeps (g.Changes op.Hands)
        (fun e => g.Fails op.Hands e ∨ ∃ target, op = .jump target) m g :=
    fun h => h.mono (fun _ t => t) fun _ failed => .inl failed
  have only : ∀ {α : Type} {m : Action τ α}, Action.Follows op.Hands g m g →
      Action.Follows op.Hands g (do let _ ← m) g := fun h => h.bind fun _ _ t => t
  cases op with
  | frame events now => exact own (only (start.frame events now))
  | run => exact own (only start.run)
  | jump target => exact start.jump target fun _ _ => .inr ⟨target, rfl⟩
  | choose pick => exact own (start.choose pick)
  | submit text => exact own (start.submit text)
  | advance => exact own (only start.advance)
  | toggleInventory => exact own start.toggleInventory
  | scroll delta => exact own (only (start.scroll delta))
  | openPauseMenu => exact own (only start.openPauseMenu)
  | takeMenuAction name => exact own (start.takeMenuAction name)
  | setMenu menu => exact own (start.setMenu menu)
  | restart => exact own start.restart
  | save slot => exact own (only (start.save slot))
  | load slot => exact own (only (start.load slot))
  | restore data => exact own (only (start.restore (.inl rfl)))
  | setVoice playing => exact start.around
  | close => exact own start.closeVideo

theorem after_eq_left (op : Operation τ) (g : Game τ) : op.after g = op.action.left g := by
  unfold after Action.left
  cases op.action g <;> rfl

/-- What an operation keeps, whether it succeeds or fails, holds of the game after it. -/
theorem holds_after {op : Operation τ} {g : Game τ} {P : Game τ → Prop} {F : Failure → Prop}
    (kept : Action.Keeps P F op.action g) : P (op.after g) := by
  rw [after_eq_left]
  exact kept.left

/-- The game after an operation comes from the game before it. -/
theorem changes_after (op : Operation τ) (g : Game τ) : g.Changes op.Hands (op.after g) :=
  holds_after (op.follows g)

/-- A failure of an operation is one of those in which it fails. -/
theorem failed_of_keeps {op : Operation τ} {g : Game τ} {P : Game τ → Prop} {F : Failure → Prop}
    (kept : Action.Keeps P F op.action g) {e : Failure} (failed : op.failure? g = some e) : F e := by
  unfold Action.Keeps Ends at kept
  unfold failure? at failed
  split at failed
  · cases failed
  · next same =>
    cases failed
    rw [same] at kept
    exact kept.2

theorem fails_of_failure? {op : Operation τ} {g : Game τ} {e : Failure}
    (failed : op.failure? g = some e) (other : ∀ target, op ≠ .jump target) :
    g.Fails op.Hands e := by
  rcases failed_of_keeps (op.follows g) failed with own | ⟨target, jump⟩
  · exact own
  · exact absurd jump (other target)

end Operation

/-! ## 2. Sessions -/

/-- The games that a session comes to from a first one, with the snapshots that were taken on the
way. Which operations there are may depend on these snapshots. -/
inductive Played (allowed : List (Snapshot τ) → Operation τ → Prop) (start : Game τ) :
    List (Snapshot τ) → Game τ → Prop
  | start : Played allowed start [] start
  | act {taken : List (Snapshot τ)} {g : Game τ} (before : Played allowed start taken g)
      {op : Operation τ} (ok : allowed taken op) : Played allowed start taken (op.after g)
  | keep {taken : List (Snapshot τ)} {g : Game τ} (before : Played allowed start taken g) :
      Played allowed start (g.snapshot :: taken) g

/-- Operations that hand over no other snapshots than those that were taken. -/
def OwnSnapshots (taken : List (Snapshot τ)) (op : Operation τ) : Prop :=
  ∀ data, op.Hands data → data ∈ taken

omit [Clock τ] in
theorem ownSnapshots_of_ne {taken : List (Snapshot τ)} {op : Operation τ}
    (other : ∀ data, op ≠ .restore data) : OwnSnapshots taken op :=
  fun data hands => absurd hands (other data)

/-- What one change keeps holds of every game that is played, and of every snapshot of one. -/
theorem Played.invariant {allowed : List (Snapshot τ) → Operation τ → Prop} {start g : Game τ}
    {taken : List (Snapshot τ)} (played : Played allowed start taken g)
    {P : Game τ → Prop} {Q : Snapshot τ → Prop} (first : P start)
    (snapshot : ∀ g, P g → Q g.snapshot)
    (hands : ∀ taken op, allowed taken op → (∀ data ∈ taken, Q data) → ∀ data, op.Hands data → Q data)
    (step : ∀ given g t, (∀ data, given data → Q data) → Game.Change given g t → P g → P t) :
    P g ∧ ∀ data ∈ taken, Q data := by
  induction played with
  | start => exact ⟨first, by simp⟩
  | @act taken g before op ok ih =>
    obtain ⟨before, good⟩ := ih
    have handed := hands taken op ok good
    exact ⟨(op.changes_after g).keep (fun g t => step op.Hands g t handed) before, good⟩
  | keep before ih =>
    obtain ⟨now, good⟩ := ih
    refine ⟨now, fun data mem => ?_⟩
    rcases List.mem_cons.mp mem with rfl | old
    · exact snapshot _ now
    · exact good data old

/-! ## 3. Games to look at -/

/-- A project with one script. -/
def soloFiles (source : Text) : FileTree := ⟨⟨[("/game/main.vn", .file source)]⟩⟩

/-- A new game in the directory of a project. -/
def gameIn (files : FileTree) (program : Program) : Game τ :=
  .start { root := "/game", savePath := "/game/quick.json", assetRoot := "/game" } {} files program

end VisualNovel
