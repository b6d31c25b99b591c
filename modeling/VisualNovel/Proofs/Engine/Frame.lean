import VisualNovel.Engine.Run
import VisualNovel.Proofs.Stateful

/-!
What is left of a frame when the player has done what they did.

A frame hands on what the player did, ends a choice whose time is over, and lets time pass unless
something is over the story. Under a menu, and as long as there is time, the clock ends no choice
(`Action.checkTimeout_of_time`). What the frame does then depends on the game that the events have
left: it stays there, or the story goes on (`Action.frame_of_events`).
-/

namespace VisualNovel.Action

variable {τ : Type} [Clock τ] {g h : Game τ}

/-! ## 1. Time to choose -/

/-- The clock ends no choice that is under a menu, or has no timeout, or has time left. -/
theorem checkTimeout_of_time
    (time : ∀ c timeout, g.state.choice = some c → g.menu = none → c.timeout = some timeout →
      Clock.lt (Clock.sub g.now c.started) (Clock.ofMillis timeout) = true) :
    checkTimeout g = .ok () g := by
  rw [checkTimeout, run_bind_ok (run_get g)]
  cases pending : g.state.choice with
  | none => rfl
  | some c =>
    cases closed : g.menu with
    | some menu => rfl
    | none =>
      cases limit : c.timeout with
      | none =>
        simp only [limit]
        rfl
      | some timeout =>
        simp only [limit, if_pos (time c timeout pending closed limit)]
        rfl

/-- Without a choice no time is over. -/
theorem checkTimeout_of_none (none : g.state.choice = none) : checkTimeout g = .ok () g :=
  checkTimeout_of_time fun c _ pending => by cases none.symm.trans pending

/-- Under an open menu no time is over. -/
theorem checkTimeout_of_menu {menu : Menu} (opened : g.menu = some menu) :
    checkTimeout g = .ok () g :=
  checkTimeout_of_time fun _ _ _ closed => by cases opened.symm.trans closed

/-! ## 2. Frames -/

section

variable {events : List Event} {now : τ}
    (handled : (do events.forM handle; checkTimeout : Action τ Unit) { g with now } = .ok () h)

include handled

/-- When what the player did is done, a frame stays where something is over the story, and goes on
otherwise. -/
theorem frame_of_events :
    frame events now g =
      if h.menu.isSome || h.state.isOverlaid then .ok h.status h else (do passTime; run) h := by
  obtain ⟨_, t, done, checked⟩ := run_bind_eq_ok.mp handled
  rw [frame, run_bind_ok (run_modify _ g), run_bind_ok done, run_bind_ok checked,
    run_bind_ok (run_get h)]
  split <;> rfl

theorem frame_of_overlaid (overlaid : (h.menu.isSome || h.state.isOverlaid) = true) :
    frame events now g = .ok h.status h := by
  rw [frame_of_events handled, if_pos overlaid]

/-- Where nothing is over the story, a frame lets time pass and goes on. -/
theorem frame_of_handled (closed : h.menu = none) (clear : h.state.isOverlaid = false) :
    frame events now g = (do passTime; run) h := by
  rw [frame_of_events handled, closed, clear]
  rfl

end

end VisualNovel.Action
