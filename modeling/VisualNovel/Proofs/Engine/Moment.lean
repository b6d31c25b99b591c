import VisualNovel.Proofs.Engine.Menu

/-!
Actions that take no time.

The clock of a game is set at the beginning of a frame. What the player does in it, menus and save
files included, and a choice whose time is over, happen at that moment: these actions leave the
clock alone (`Action.AtOnce`), whether they succeed or fail.
-/

namespace VisualNovel.Action

variable {τ α β : Type}

/-- An action that leaves the clock alone, whether it succeeds or fails. -/
def AtOnce (m : Action τ α) : Prop :=
  ∀ g : Game τ, Keeps (fun t => t.now = g.now) (fun _ => True) m g

theorem AtOnce.bind {m : Action τ α} {f : α → Action τ β} (first : m.AtOnce)
    (second : ∀ a, (f a).AtOnce) : (m >>= f).AtOnce := fun g =>
  Keeps.bind (first g) fun a t same =>
    (second a t).mono (fun _ later => later.trans same) fun _ _ => trivial

/-- A game that an action leads to shows the same moment. -/
theorem AtOnce.of_ok {m : Action τ α} (h : m.AtOnce) {g t : Game τ} {a : α}
    (done : m g = .ok a t) : t.now = g.now := by
  have same := h g
  rwa [Keeps, Ends, done] at same

/-- What happens inside the story takes no time. -/
theorem Inner.atOnce {m : Action τ α} (h : m.Inner) : m.AtOnce := fun g =>
  (h g).mono (fun _ same => same.now) fun _ => id

variable [Clock τ]

theorem atOnce_handle (event : Event) : (handle event : Action τ Unit).AtOnce := fun g =>
  (moves_handle event g).mono (fun _ moves => moves.now) fun _ => id

theorem atOnce_forM (events : List Event) : (events.forM handle : Action τ Unit).AtOnce := by
  induction events with
  | nil => exact (inner_pure _).atOnce
  | cons event rest ih => exact (atOnce_handle event).bind fun _ => ih

theorem atOnce_checkTimeout : (checkTimeout : Action τ Unit).AtOnce := inner_checkTimeout.atOnce

end VisualNovel.Action
