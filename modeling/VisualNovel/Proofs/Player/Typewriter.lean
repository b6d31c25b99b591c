import VisualNovel.Player.View

/-!
The typewriter loses no text.

A view keeps its lines in three places: those that are done, the one that is being typed, and those
to come. `View.transcript` is all of them in order. Typing moves text from one place to the next,
keys that come in between are about something else, and only a boundary says something new
(`ViewAction.tell`), so the transcript after any actions is what the boundaries among them have told
(`transcript_after`). What is on the screen is the transcript up to some point (`CutShort`). Typing
comes to an end: every tick uses up one of the ticks that are left (`ticksLeft_tick`), and the view
is then the one that a flush gives at once.
-/

namespace VisualNovel

/-! ## 1. Sequences of actions -/

/-- What an action makes of the lines that are told: a boundary puts its texts behind them, or in
their place. -/
def ViewAction.tell (told : List Text) : ViewAction → List Text
  | .boundary b _ replace _ => if replace then b.texts else told ++ b.texts
  | .tick | .flush | .move _ | .type _ | .erase | .notice _ => told

/-- One list of lines is another one, cut off at some point: between two lines, or within one. -/
inductive CutShort : List Text → List Text → Prop
  | between (whole rest : List Text) : CutShort whole (whole ++ rest)
  | within (whole rest : List Text) {part line : Text} (front : part <+: line) :
      CutShort (whole ++ [part]) (whole ++ line :: rest)

namespace View

/-- The view after some actions. -/
def after (v : View) (actions : List ViewAction) : View := actions.foldl step v

/-- The view after some ticks. -/
def ticked (v : View) (n : Nat) : View := v.after (List.replicate n .tick)

@[simp] theorem ticked_zero (v : View) : v.ticked 0 = v := rfl

@[simp] theorem ticked_succ (v : View) (n : Nat) : v.ticked (n + 1) = v.tick.ticked n := rfl

/-! ## 2. The transcript -/

theorem transcript_tick (v : View) : v.tick.transcript = v.transcript := by
  cases typing : v.typing with
  | some line =>
    by_cases full : line.length ≤ v.typed
    · simp [tick, transcript, typing, full]
    · simp [tick, transcript, typing, full]
  | none =>
    cases pending : v.pending with
    | nil => simp [tick, typing, pending]
    | cons next rest =>
      -- An empty line is done at once: there is no unit of it to type.
      by_cases empty : next.isEmpty
      · simp [tick, transcript, typing, pending, empty]
      · simp [tick, transcript, typing, pending, empty]

theorem transcript_flush (v : View) : v.flush.transcript = v.transcript := by
  simp [flush, transcript]

theorem transcript_move (v : View) (delta : Int) : (v.move delta).transcript = v.transcript := by
  unfold move
  split <;> rfl

theorem transcript_goTo (v : View) (b : Boundary) (hud : Option Text) (replace : Bool)
    (notice : Text) :
    (v.goTo b hud replace notice).transcript =
      if replace then b.texts else v.transcript ++ b.texts := by
  cases replace with
  | true => simp [goTo, transcript]
  | false => simp [goTo, transcript]

theorem transcript_step (v : View) (action : ViewAction) :
    (v.step action).transcript = action.tell v.transcript := by
  cases action with
  | boundary b hud replace notice => exact v.transcript_goTo b hud replace notice
  | tick => exact v.transcript_tick
  | flush => exact v.transcript_flush
  | move delta => exact v.transcript_move delta
  | type text => rfl
  | erase => rfl
  | notice text => rfl

/-- After any actions the transcript is what has been told. -/
theorem transcript_after (v : View) (actions : List ViewAction) :
    (v.after actions).transcript = actions.foldl ViewAction.tell v.transcript := by
  induction actions generalizing v with
  | nil => rfl
  | cons action rest ih =>
    have first := ih (v.step action)
    rw [transcript_step] at first
    exact first

/-- What is visible is the transcript up to some point. -/
theorem cutShort_visible (v : View) : CutShort v.visible v.transcript := by
  cases typing : v.typing with
  | none =>
    have rest : v.transcript = v.visible ++ v.pending := by simp [transcript, visible, typing]
    rw [rest]
    exact .between v.visible v.pending
  | some line =>
    have shown : v.visible = v.lines ++ [line.take v.typed] := by simp [visible, typing]
    have all : v.transcript = v.lines ++ line :: v.pending := by simp [transcript, typing]
    rw [shown, all]
    exact .within v.lines v.pending <| List.take_prefix v.typed line

/-! ## 3. The end of typing -/

/-- How many ticks it takes to type a line: one for each unit, and one to be done with it. -/
def ticksFor (line : Text) : Nat := line.length + 1

/-- How many ticks it takes until all lines are done. -/
def ticksLeft (v : View) : Nat :=
  (v.typing.map fun line => ticksFor (line.drop v.typed)).getD 0 +
    v.pending.foldr (fun line left => ticksFor line + left) 0

/-- A view is streaming as long as ticks are left. -/
theorem isStreaming_iff (v : View) : v.isStreaming = true ↔ 0 < v.ticksLeft := by
  cases typing : v.typing with
  | some line =>
    have left : 0 < v.ticksLeft := by
      simp only [ticksLeft, ticksFor, typing, Option.map_some, Option.getD_some]
      omega
    simp [isStreaming, typing, left]
  | none =>
    cases pending : v.pending with
    | nil => simp [isStreaming, ticksLeft, typing, pending]
    | cons next rest =>
      have left : 0 < v.ticksLeft := by
        simp only [ticksLeft, ticksFor, pending, List.foldr_cons]
        omega
      simp [isStreaming, typing, pending, left]

/-- Every tick is one of those that are left. -/
theorem ticksLeft_tick (v : View) : v.tick.ticksLeft = v.ticksLeft - 1 := by
  cases typing : v.typing with
  | some line =>
    by_cases full : line.length ≤ v.typed
    · simp [tick, ticksLeft, ticksFor, typing, full]
    · simp only [tick, ticksLeft, ticksFor, typing, if_neg full, Option.map_some, Option.getD_some,
        List.length_drop]
      omega
  | none =>
    cases pending : v.pending with
    | nil => simp [tick, ticksLeft, typing, pending]
    | cons next rest =>
      cases next with
      | nil => simp [tick, ticksLeft, ticksFor, typing, pending]
      | cons unit units =>
        simp [tick, ticksLeft, ticksFor, typing, pending]

theorem ticksLeft_ticked (v : View) (n : Nat) : (v.ticked n).ticksLeft = v.ticksLeft - n := by
  induction n generalizing v with
  | zero => simp
  | succ n ih =>
    rw [ticked_succ, ih, ticksLeft_tick]
    omega

/-- What a tick does is part of what a flush does. -/
theorem flush_tick (v : View) : v.tick.flush = v.flush := by
  have kept := v.transcript_tick
  unfold flush
  rw [kept]
  unfold tick
  split
  · split <;> rfl
  · split <;> rfl
  · rfl

theorem flush_ticked (v : View) (n : Nat) : (v.ticked n).flush = v.flush := by
  induction n generalizing v with
  | zero => rfl
  | succ n ih => rw [ticked_succ, ih, flush_tick]

/-- Where nothing is left to type, all lines are done. -/
theorem lines_of_still {v : View} (still : v.isStreaming = false) : v.lines = v.flush.lines := by
  simp only [isStreaming, Bool.or_eq_false_iff, Option.isSome_eq_false_iff,
    Option.isNone_iff_eq_none, Bool.not_eq_false', List.isEmpty_iff] at still
  obtain ⟨typing, pending⟩ := still
  simp [flush, transcript, typing, pending]

/-- The typewriter loses no text. After any actions the lines of a view are those that it had,
changed only as boundaries tell; what is visible are the lines up to some point; and a view types
until its ticks are used up, and has the lines then that a flush gives it, as all else of it. -/
theorem typing_loses_nothing (v : View) :
    (∀ actions, (v.after actions).transcript = actions.foldl ViewAction.tell v.transcript ∧
      CutShort (v.after actions).visible (v.after actions).transcript) ∧
    (∀ n, (v.ticked n).isStreaming = false ↔ v.ticksLeft ≤ n) ∧
    (v.ticked v.ticksLeft).lines = v.flush.lines ∧
    ∀ n, (v.ticked n).flush = v.flush := by
  have ends : ∀ n, (v.ticked n).isStreaming = false ↔ v.ticksLeft ≤ n := by
    intro n
    rw [← Bool.not_eq_true, isStreaming_iff, ticksLeft_ticked]
    omega
  refine ⟨fun actions => ⟨v.transcript_after actions, (v.after actions).cutShort_visible⟩, ends, ?_,
    v.flush_ticked⟩
  have still : (v.ticked v.ticksLeft).isStreaming = false := (ends v.ticksLeft).mpr (Nat.le_refl _)
  rw [lines_of_still still, flush_ticked]

/-- Two lines come while a third one is being typed, and an empty line is among them. -/
example :
    let v := ({ typing := some "ab", typed := 1 } : View).step
      (.boundary { event := .ended, texts := [[], "c"] } none false "ready")
    (v.ticked 1).visible = [Text.ofString "ab"] ∧
      (v.ticked 4).visible = [Text.ofString "ab", [], Text.ofString "c"] ∧ v.ticksLeft = 5 := by
  decide

end View
end VisualNovel
